import Mathlib.Data.List.DropRight
import UnitScript.Proofs.World.Identifiers
import UnitScript.Proofs.World.Solo

universe u

namespace UnitScript

namespace Queue

variable {α : Type u} {limit : Nat} {q : Queue α} {all : List α}

theorem toList_pushWithin (h : q.toList = all.rtake limit) (a : α) :
    (q.pushWithin limit a).toList = (all ++ [a]).rtake limit := by
  cases limit with
  | zero =>
    rw [List.rtake_zero] at h ⊢
    exact h
  | succ limit =>
    rw [pushWithin, if_neg (Nat.succ_ne_zero limit), toList_push, toList_drop, ← length_toList, h,
      List.rtake_concat_succ, List.rtake, List.drop_drop, List.length_drop, List.rtake]
    congr 2
    omega

theorem toList_foldl_pushWithin (h : q.toList = all.rtake limit) (added : List α) :
    (added.foldl (pushWithin limit) q).toList = (all ++ added).rtake limit := by
  induction added generalizing q all with
  | nil => rw [List.foldl_nil, List.append_nil, h]
  | cons a rest ih => rw [List.foldl_cons, List.append_cons, ih (toList_pushWithin h a)]

end Queue

def Config.withCaps (config : Config) (effects diagnostics : Nat) : Config :=
  { config with
    runtime :=
      { config.runtime with maxPendingEffects := effects, maxDiagnostics := diagnostics } }

def Effect.ofEmission? : UnitId × Emission → Option Effect
  | (unit, emission) => emission.act?.map (⟨unit, ·⟩)

def Diagnostic.ofEmission? (now : Tick) : UnitId × Emission → Option Diagnostic
  | (unit, emission) => emission.fault?.map fun (thread, fault) => ⟨now, unit, thread, fault⟩

namespace Queues

variable (config : Config) (now : Tick) (told : List (UnitId × Emission)) (q : Queues)

theorem effects_foldl_enter :
    (told.foldl (enter config now) q).effects =
      (told.filterMap Effect.ofEmission?).foldl
        (Queue.pushWithin config.runtime.maxPendingEffects) q.effects := by
  induction told generalizing q with
  | nil => rfl
  | cons entry rest ih =>
    obtain ⟨unit, emission⟩ := entry
    cases emission with
    | act act => exact ih _
    | fault thread fault => exact ih _

theorem diagnostics_foldl_enter :
    (told.foldl (enter config now) q).diagnostics =
      (told.filterMap (Diagnostic.ofEmission? now)).foldl
        (Queue.pushWithin config.runtime.maxDiagnostics) q.diagnostics := by
  induction told generalizing q with
  | nil => rfl
  | cons entry rest ih =>
    obtain ⟨unit, emission⟩ := entry
    cases emission with
    | act act => exact ih _
    | fault thread fault => exact ih _

theorem foldl_enter_capless : told.foldl (enter (config.withCaps 0 0) now) {} = {} := by
  induction told with
  | nil => rfl
  | cons entry rest ih =>
    obtain ⟨unit, emission⟩ := entry
    cases emission with
    | act act => exact ih
    | fault thread fault => exact ih

end Queues

section Caps

variable {σ : Type} [Host σ] (config : Config) (effects diagnostics : Nat) (now : Tick)

namespace Machine

theorem step_withCaps (m : Machine σ) :
    m.step (config.withCaps effects diagnostics) now = m.step config now := by
  have same (t : Thread) (i : Instr) :
      m.execute (config.withCaps effects diagnostics) now t i = m.execute config now t i := by
    cases i <;> rfl
  simp only [step, same]

theorem run_withCaps (budget : Nat) (m : Machine σ) :
    m.run (config.withCaps effects diagnostics) now budget = m.run config now budget := by
  induction budget generalizing m with
  | zero => rfl
  | succ budget ih => simp only [run, step_withCaps, ih]

theorem acts_withCaps (budget : Nat) (m : Machine σ) :
    m.acts (config.withCaps effects diagnostics) now budget = m.acts config now budget := by
  have same (m : Machine σ) : m.deeds (config.withCaps effects diagnostics) now budget =
      m.deeds config now budget := by
    induction budget generalizing m with
    | zero => rfl
    | succ budget ih => simp only [deeds, step_withCaps, ih]
  rw [acts, acts, same]

end Machine

namespace TickState

theorem turn_withCaps (s : TickState σ) (id : ThreadId) :
    s.turn (config.withCaps effects diagnostics) now id = s.turn config now id := by
  simp only [turn, runThread, Machine.run_withCaps]
  rfl

theorem machines_withCaps (ids : List ThreadId) (s : TickState σ) :
    machines (config.withCaps effects diagnostics) now ids s = machines config now ids s := by
  induction ids generalizing s with
  | nil => rfl
  | cons id rest ih => simp only [machines, turn_withCaps, ih]

end TickState

theorem runTick_withCaps (e : Environment) (host : σ) :
    runTick (config.withCaps effects diagnostics) now e host = runTick config now e host := by
  have same : TickState.turn (config.withCaps effects diagnostics) now =
      (TickState.turn config now : TickState σ → ThreadId → TickState σ) := by
    funext s id
    exact s.turn_withCaps config effects diagnostics now id
  simp only [runTick, same]

end Caps

namespace World

def bare (w : World) : World := w.furnish (w.config.withCaps 0 0) {}

def Response.bare : Response → Response
  | .drained _ => .drained []
  | response => response

variable {w : World} {c : Chronicle}

theorem effects_of_emissions (w : World) (tick : Nat) :
    w.emissions.filterMap Effect.ofEmission? =
      (w.acts tick).map fun (moment, act) => ⟨moment.unit, act⟩ := by
  rw [emissions, acts, List.filterMap_flatMap, List.map_flatMap]
  congr 1
  funext turn
  obtain ⟨id, unit, g⟩ := turn
  dsimp only
  rw [tickEmissions, TickState.emissions, List.filterMap_map, List.filterMap_flatMap,
    List.map_flatMap]
  congr 1
  funext m
  calc
    _ = ((m.emissions w.config w.now w.config.runtime.maxInstructionsPerRun).filterMap
          Emission.act?).map (⟨id, ·⟩) := by rw [List.map_filterMap]; rfl
    _ = ((m.acts w.config w.now w.config.runtime.maxInstructionsPerRun).map Prod.snd).map
          (⟨id, ·⟩) := by rw [m.acts_eq_emissions]
    _ = _ := by rw [List.map_map, List.map_map]; rfl

theorem faults_of_emissions (w : World) (now : Tick) :
    w.emissions.filterMap (Diagnostic.ofEmission? now) = faultsOf now w.tick.1 := by
  rw [emissions, faultsOf, reports_tick, List.filterMap_flatMap, List.flatMap_map]
  congr 1
  funext turn
  obtain ⟨id, unit, g⟩ := turn
  dsimp only
  rw [faulted_runTick, List.filterMap_map, List.map_filterMap]
  rfl

theorem effects_write_tick (w : World) (c : Chronicle) :
    (w.write c .tick).effects = c.effects ++ w.emissions.filterMap Effect.ofEmission? := by
  rw [w.effects_of_emissions c.ticks]
  exact List.map_append

theorem faults_write_tick (w : World) (c : Chronicle) :
    (w.write c .tick).faults =
      c.faults ++ w.emissions.filterMap (Diagnostic.ofEmission? (UInt64.ofNat c.ticks)) := by
  rw [faults_of_emissions]
  rfl

structure Recorded (w : World) (c : Chronicle) : Prop where
  now : w.now = UInt64.ofNat c.ticks
  effects : w.queues.effects.toList = c.effects.rtake w.config.runtime.maxPendingEffects
  diagnostics : w.queues.diagnostics.toList = c.faults.rtake w.config.runtime.maxDiagnostics

theorem Recorded.tick (h : w.Recorded c) : w.tick.2.Recorded (w.write c .tick) where
  now := by
    rw [write, UInt64.ofNat_add, ← h.now]
    rfl
  effects := by
    rw [queues_tick, Queues.effects_foldl_enter, effects_write_tick]
    exact Queue.toList_foldl_pushWithin h.effects _
  diagnostics := by
    rw [queues_tick, Queues.diagnostics_foldl_enter, faults_write_tick, ← h.now]
    exact Queue.toList_foldl_pushWithin h.diagnostics _

theorem Recorded.apply (h : w.Recorded c) (op : Operation) :
    (w.apply op).2.Recorded (w.write c op) := by
  have other (now : (w.apply op).2.now = w.now) (queues : (w.apply op).2.queues = w.queues) :
      (w.apply op).2.Recorded c := by
    refine ⟨?_, ?_, ?_⟩
    · rw [now, h.now]
    · rw [queues, config_apply, h.effects]
    · rw [queues, config_apply, h.diagnostics]
  cases op with
  | tick => exact h.tick
  | drainEffects => exact ⟨h.now, (List.rtake_nil _).symm, h.diagnostics⟩
  | spawn module => exact other rfl rfl
  | destroy id => exact other (now_apply Operation.noConfusion) (queues_of_local rfl)
  | runScript id name args => exact other (now_apply Operation.noConfusion) (queues_of_local rfl)
  | sendSignal id signal => exact other (now_apply Operation.noConfusion) (queues_of_local rfl)

theorem Recorded.after (h : w.Recorded c) (ops : List Operation) :
    (w.after ops).Recorded (chronicle w ops c) := by
  induction ops generalizing w c with
  | nil => exact h
  | cons op rest ih => exact ih (h.apply op)

theorem recorded_create (config : Config) : (create config).Recorded {} where
  now := rfl
  effects := (List.rtake_nil _).symm
  diagnostics := (List.rtake_nil _).symm

theorem units_tick_bare (w : World) : w.bare.tick.2.units = w.tick.2.units := by
  apply Std.ExtTreeMap.ext_getElem?
  intro id
  rw [units_tick, units_tick]
  congr 1
  funext unit
  simp only [UnitState.next, UnitState.soloTick, bare, furnish, runTick_withCaps]

theorem tick_bare (w : World) : w.bare.tick = (w.tick.1, w.tick.2.bare) := by
  have reports : w.bare.tick.1 = w.tick.1 := by
    rw [reports_solo, reports_solo]
    simp only [UnitState.soloTick, bare, furnish, runTick_withCaps]
  have queues : w.bare.tick.2.queues = {} := by
    rw [queues_tick]
    exact Queues.foldl_enter_capless ..
  have after : w.bare.tick.2 = w.tick.2.bare := by
    change { w.bare with
      units := w.bare.tick.2.units, queues := w.bare.tick.2.queues, now := w.now + 1 } = _
    rw [units_tick_bare, queues]
    rfl
  exact Prod.ext reports after

theorem acts_bare (w : World) (tick : Nat) : w.bare.acts tick = w.acts tick := by
  rw [acts_solo, acts_solo]
  simp only [UnitState.acts, bare, furnish, TickState.machines_withCaps, Machine.acts_withCaps]
  rfl

theorem bare_of_local {op : Operation} (only : op.isLocal = true) :
    (w.apply op).1.bare = (w.apply op).1 := by
  cases op with
  | destroy id =>
    simp only [apply]
    split <;> rfl
  | runScript id name args =>
    simp only [apply]
    split <;> rfl
  | sendSignal id signal =>
    simp only [apply]
    split <;> rfl
  | _ => cases only

theorem apply_bare (w : World) (op : Operation) :
    w.bare.apply op = ((w.apply op).1.bare, (w.apply op).2.bare) := by
  have unseen (only : op.isLocal = true) :
      w.bare.apply op = ((w.apply op).1.bare, (w.apply op).2.bare) := by
    rw [bare_of_local only, bare, bare, apply_furnish only, config_apply]
  cases op with
  | spawn module => rfl
  | tick => simp only [apply, tick_bare, Response.bare]
  | drainEffects => rfl
  | destroy id => exact unseen rfl
  | runScript id name args => exact unseen rfl
  | sendSignal id signal => exact unseen rfl

theorem after_bare (w : World) (ops : List Operation) :
    w.bare.after ops = (w.after ops).bare := by
  induction ops generalizing w with
  | nil => rfl
  | cons op rest ih =>
    change (w.bare.apply op).2.after rest = ((w.apply op).2.after rest).bare
    rw [apply_bare, ih]

theorem responses_bare (w : World) (ops : List Operation) :
    w.bare.responses ops = (w.responses ops).map Response.bare := by
  induction ops generalizing w with
  | nil => rfl
  | cons op rest ih => simp only [responses, apply_bare, ih, List.map_cons]

theorem chronicle_bare (w : World) (ops : List Operation) (c : Chronicle) :
    chronicle w.bare ops c = chronicle w ops c := by
  have same (w : World) (c : Chronicle) (op : Operation) : w.bare.write c op = w.write c op := by
    cases op with
    | tick => simp only [write, acts_bare, tick_bare]
    | _ => rfl
  induction ops generalizing w c with
  | nil => rfl
  | cons op rest ih => simp only [chronicle, apply_bare, same, ih]

/-- Whatever is asked of a world, limits on its queues make no difference to its units and to what
is reported. What is drained is the end of what scripts have done beyond their units since effects
were drained last, in the order of the moments, and the diagnostics are the end of all faults that
ticks have reported. Units and threads are numbered in the order of their creation, as long as there
are numbers. -/
theorem queues_suffix_of_history (config : Config) (effects diagnostics : Nat)
    (ops : List Operation) :
    ((create (config.withCaps effects diagnostics)).after ops).units =
      ((create config).after ops).units ∧
    ((create (config.withCaps effects diagnostics)).responses ops).map Response.bare =
      ((create config).responses ops).map Response.bare ∧
    ((create (config.withCaps effects diagnostics)).after ops).drainEffects.1 =
      (chronicle (create config) ops {}).effects.rtake effects ∧
    ((create (config.withCaps effects diagnostics)).after ops).diagnostics =
      (chronicle (create config) ops {}).faults.rtake diagnostics ∧
    ((chronicle (create config) ops {}).pending.Pairwise fun a b => a.1.Precedes b.1) ∧
    (Roomy config ops → ((create config).created ops).Pairwise (· < ·) ∧
      ∀ (u : UnitId) (unit : UnitState), ((create config).after ops).units[u]? = some unit →
        (ledger u (create config) ops {}).started.Pairwise (· < ·)) := by
  -- Without queues there is nothing left in which the two worlds differ.
  have same : (create (config.withCaps effects diagnostics)).bare = (create config).bare := rfl
  have recorded := (recorded_create (config.withCaps effects diagnostics)).after ops
  rw [← chronicle_bare, same, chronicle_bare] at recorded
  have ordered : Chronicle.Ordered {} := ⟨.nil, nofun⟩
  refine ⟨?_, ?_, ?_, ?_, (ordered.chronicle (sound_create config) ops).pairwise, ?_⟩
  · change ((create (config.withCaps effects diagnostics)).after ops).bare.units = _
    rw [← after_bare, same, after_bare]
    rfl
  · rw [← responses_bare, same, responses_bare]
  · have effects := recorded.effects
    rwa [config_after] at effects
  · have diagnostics := recorded.diagnostics
    rwa [config_after] at diagnostics
  · intro room
    refine ⟨created_increasing config room.units, ?_⟩
    intro u unit live
    exact (room.balanced live).numbers.increasing

def lettingGo : Module where
  definition :=
    { scripts := #[{ name := "Main", offset := 0 }]
      code := #[.pushConstant 7, .detachUnit, .pushConstant 8, .detachUnit, .popStack] }
  checked := by decide +kernel

def farewell : List Operation :=
  [.spawn lettingGo, .spawn lettingGo, .runScript 2 "Main" [], .runScript 1 "Main" [], .tick,
    .drainEffects, .runScript 1 "Main" [], .runScript 2 "Main" [], .runScript 1 "Main" [], .tick]

theorem farewell_suffix :
    ((create (({} : Config).withCaps 3 0)).after farewell).drainEffects.1 =
        [⟨1, .detachUnit 8⟩, ⟨2, .detachUnit 7⟩, ⟨2, .detachUnit 8⟩] ∧
      ((create (({} : Config).withCaps 3 0)).after farewell).diagnostics = [] ∧
      ((create {}).created farewell).Pairwise (· < ·) := by
  have room : Roomy {} farewell := by decide +kernel
  obtain ⟨-, -, effects, diagnostics, -, increasing⟩ := queues_suffix_of_history {} 3 0 farewell
  rw [effects, diagnostics]
  exact ⟨by decide +kernel, by decide +kernel, (increasing room).1⟩

end World

end UnitScript
