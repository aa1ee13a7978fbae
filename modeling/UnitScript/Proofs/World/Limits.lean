import UnitScript.Proofs.Tick.Limits
import UnitScript.Proofs.World.History
import UnitScript.Proofs.World.Units

namespace UnitScript

namespace World

def withConfig (w : World) (config : Config) : World := w.furnish config w.queues

def Response.hitsLimit : Response → Bool
  | .ticked reports => reports.any (·.2.hitsLimit)
  | _ => false

variable {config config' : Config} {w : World} {op : Operation}

theorem tickUnit_widened (widens : config.Widens config') (now : Tick) (id : UnitId)
    (unit : UnitState) (g : Gathered)
    (unhit : (runTick config now unit.environment
      (hostOf config now id unit g)).report.hitsLimit = false) :
    tickUnit config' now id unit g = tickUnit config now id unit g := by
  have tick_eq (config : Config) : tickUnit config now id unit g =
      let s := runTick config now unit.environment (hostOf config now id unit g)
      ({ environment := s.environment, pieces := s.host.pieces.advance, values := s.host.values },
        { queues := s.host.queues, notices := s.host.notices
          reports := (id, s.report) :: g.reports }) := rfl
  have host : hostOf config' now id unit g = hostOf config now id unit g := by
    cases widens with
    | limits => rfl
  cases runTick_widened widens now unit.environment (hostOf config now id unit g) with
  | inl hit =>
    rw [unhit] at hit
    cases hit
  | inr same => rw [tick_eq, tick_eq, host, same]

theorem tick_withConfig (widens : w.config.Widens config')
    (unhit : (Response.ticked w.tick.1).hitsLimit = false) :
    (w.withConfig config').tick = (w.tick.1, w.tick.2.withConfig config') := by
  have walk : Table.mapEntries (tickUnit config' w.now) w.units.toList { queues := w.queues } =
      Table.mapEntries (tickUnit w.config w.now) w.units.toList { queues := w.queues } := by
    apply Table.mapEntries_congr
    rintro ⟨id, unit, g⟩ turn
    apply tickUnit_widened widens
    rw [Response.hitsLimit, reports_tick, List.any_eq_false] at unhit
    exact Bool.eq_false_iff.mpr (unhit _ (List.mem_map_of_mem turn))
  simp only [tick, tickWithNotices, Table.mapAccum, withConfig, furnish, walk]

theorem apply_withConfig (widens : w.config.Widens config')
    (unhit : (w.apply op).1.hitsLimit = false) :
    (w.withConfig config').apply op = ((w.apply op).1, (w.apply op).2.withConfig config') := by
  have unseen (only : op.isLocal = true) : (w.withConfig config').apply op =
      ((w.apply op).1, (w.apply op).2.withConfig config') := by
    rw [withConfig, withConfig, apply_furnish only, queues_of_local only]
  cases op with
  | spawn module =>
    have seed : config'.runtime.seed = w.config.runtime.seed := by
      cases widens with
      | limits => rfl
    simp only [apply, spawn, withConfig, furnish, seed]
  | tick => simp only [apply, tick_withConfig widens unhit]
  | drainEffects => rfl
  | destroy id => exact unseen rfl
  | runScript id name args => exact unseen rfl
  | sendSignal id signal => exact unseen rfl

theorem after_withConfig (widens : w.config.Widens config') {ops : List Operation}
    (unhit : ∀ response ∈ w.responses ops, response.hitsLimit = false) :
    (w.withConfig config').responses ops = w.responses ops ∧
      (w.withConfig config').after ops = (w.after ops).withConfig config' := by
  induction ops generalizing w with
  | nil => exact ⟨rfl, rfl⟩
  | cons op rest ih =>
    obtain ⟨here, later⟩ := List.forall_mem_cons.mp unhit
    have applied := apply_withConfig widens here
    obtain ⟨responses, after⟩ := ih (w := (w.apply op).2) (config_apply w op ▸ widens) later
    constructor
    · simp only [World.responses, applied, responses]
    · change ((w.withConfig config').apply op).2.after rest = _
      rw [applied, after]
      rfl

/-- Whatever is asked of a world, if none of its ticks reports an overflow of a stack or a division
by zero, then under a configuration that has wider limits or lets a division by zero pass all
answers are the same, and the world comes to be the same, with its units and its queues. -/
theorem wider_limits_unnoticed (widens : config.Widens config') (ops : List Operation)
    (unhit : ∀ response ∈ (create config).responses ops, response.hitsLimit = false) :
    (create config').responses ops = (create config).responses ops ∧
      (create config').after ops = ((create config).after ops).withConfig config' :=
  after_withConfig (w := create config) widens unhit

def straining : Module where
  definition :=
    { scripts := #[{ name := "Main", offset := 0 }, { name := "Divide", offset := 4, locals := 1 }]
      code := #[.pushConstant 7, .pushConstant 2, .callScript ⟨1⟩ 1, .returnFromScript,
        .pushLocal 0, .binary .div, .detachUnit, .popStack] }
  checked := by decide +kernel

def strain : List Operation := [.spawn straining, .runScript 1 "Main" [], .tick, .drainEffects]

def tight : Config :=
  { runtime := { maxStackSize := 2, maxCallDepth := 2 }, semantics := { divideByZero := .fault } }

def ample : Config :=
  { runtime := { maxStackSize := 9, maxCallDepth := 3 }, semantics := { divideByZero := .zero } }

theorem strain_unnoticed :
    (create ample).responses strain = (create tight).responses strain ∧
      (create ample).after strain = ((create tight).after strain).withConfig ample ∧
      ((create ample).after strain).diagnostics = [⟨0, 1, 1, ⟨7, .stackUnderflow⟩⟩] := by
  have widens : tight.Widens ample := .limits (by decide) (by decide) (.inr ⟨rfl, rfl⟩)
  obtain ⟨responses, after⟩ := wider_limits_unnoticed widens strain (by decide +kernel)
  exact ⟨responses, after, by decide +kernel⟩

end World

end UnitScript
