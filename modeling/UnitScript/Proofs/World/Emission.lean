import UnitScript.Proofs.Tick.Emission
import UnitScript.Proofs.World.Operation

namespace UnitScript

def Queues.enter (config : Config) (now : Tick) (q : Queues) : UnitId × Emission → Queues
  | (unit, .act act) =>
    { q with effects := q.effects.pushWithin config.runtime.maxPendingEffects ⟨unit, act⟩ }
  | (unit, .fault thread fault) =>
    { q with
      diagnostics := q.diagnostics.pushWithin config.runtime.maxDiagnostics
        ⟨now, unit, thread, fault⟩ }

namespace World

def emissions (w : World) : List (UnitId × Emission) :=
  w.turns.flatMap fun (id, unit, g) =>
    (tickEmissions w.config w.now unit.environment (hostOf w.config w.now id unit g)).map (id, ·)

def Entered (config : Config) (now : Tick) (id : UnitId) (q : Queues) (told : List Emission)
    (h : UnitHost) : Prop :=
  h.unit = id ∧ h.now = now ∧ h.maxDiagnostics = config.runtime.maxDiagnostics ∧
    h.maxPendingEffects = config.runtime.maxPendingEffects ∧
    h.queues = (told.map (id, ·)).foldl (Queues.enter config now) q

theorem hears_entered (config : Config) (now : Tick) (id : UnitId) (q : Queues) :
    Host.Hears (Entered config now id q) where
  request h _ _ := h
  setValue h _ _ := h
  act := by
    rintro told h ⟨unit, clock, diagnostics, effects, queues⟩ act
    refine ⟨unit, clock, diagnostics, effects, ?_⟩
    simp [Host.act, UnitHost.record, unit, effects, queues, Queues.enter]
  reportFault := by
    rintro told h ⟨unit, clock, diagnostics, effects, queues⟩ thread fault
    refine ⟨unit, clock, diagnostics, effects, ?_⟩
    simp [Host.reportFault, UnitHost.reportFault, unit, clock, diagnostics, queues, Queues.enter]

theorem queues_tickUnit (config : Config) (now : Tick) (id : UnitId) (unit : UnitState)
    (g : Gathered) :
    (tickUnit config now id unit g).2.queues =
      ((tickEmissions config now unit.environment (hostOf config now id unit g)).map (id, ·)).foldl
        (Queues.enter config now) g.queues := by
  have start : Entered config now id g.queues [] (hostOf config now id unit g) :=
    ⟨rfl, rfl, rfl, rfl, rfl⟩
  exact (hears_runTick (hears_entered ..) start config now unit.environment).2.2.2.2

theorem queues_mapEntries (config : Config) (now : Tick) (entries : List (UnitId × UnitState))
    (g : Gathered) :
    (Table.mapEntries (tickUnit config now) entries g).2.queues =
      ((Table.visits (tickUnit config now) entries g).flatMap fun (id, unit, g) =>
        (tickEmissions config now unit.environment (hostOf config now id unit g)).map (id, ·)).foldl
          (Queues.enter config now) g.queues := by
  induction entries generalizing g with
  | nil => rfl
  | cons e rest ih =>
    simp only [Table.mapEntries, Table.visits, ih, List.flatMap_cons, List.foldl_append,
      queues_tickUnit]

theorem queues_tick (w : World) :
    w.tick.2.queues = w.emissions.foldl (Queues.enter w.config w.now) w.queues :=
  queues_mapEntries w.config w.now w.units.toList { queues := w.queues }

end World

end UnitScript
