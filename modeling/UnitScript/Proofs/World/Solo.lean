import UnitScript.Proofs.World.History
import UnitScript.Proofs.World.Units
import UnitScript.Sandbox

namespace UnitScript

structure UnitHost.Matches (h : UnitHost) (r : Recorder) : Prop where
  pieces : h.pieces = r.pieces
  values : h.values = r.values

theorem UnitHost.simulation_matches : Host.Simulation Matches where
  pieces h := h.pieces
  value h key := by simp only [Host.value, Recorder.value, h.values]
  request h piece request := ⟨by simp only [Host.request, h.pieces], h.values⟩
  act h _ := ⟨h.pieces, h.values⟩
  setValue h key value := ⟨h.pieces, by simp only [Host.setValue, Recorder.setValue, h.values]⟩
  reportFault h _ _ := ⟨h.pieces, h.values⟩

theorem Machine.Alike.acts_eq {σ τ : Type} [Host σ] [Host τ] {R : σ → τ → Prop} {m : Machine σ}
    {m' : Machine τ} (alike : Alike R m m') (sim : Host.Simulation R) (config : Config) (now : Tick)
    (budget : Nat) : m.acts config now budget = m'.acts config now budget := by
  rw [acts, acts, (alike.run sim config now budget).2.2]

namespace UnitState

variable (config : Config) (now : Tick) (u : UnitState)

def recorder : Recorder := { pieces := u.pieces, values := u.values }

def soloTick : TickState Recorder := runTick config now u.environment u.recorder

def next : UnitState where
  environment := (u.soloTick config now).environment
  pieces := (u.soloTick config now).host.pieces.advance
  values := (u.soloTick config now).host.values

def acts : List (ThreadId × Nat × Act) :=
  (TickState.machines config now u.environment.threadIds
    { environment := u.environment, host := u.recorder }).flatMap fun m =>
      (m.acts config now config.runtime.maxInstructionsPerRun).map (m.thread.id, ·)

end UnitState

namespace World

variable {unit : UnitState} {r : Recorder}

theorem matches_hostOf (pieces : unit.pieces = r.pieces) (values : unit.values = r.values)
    (config : Config) (now : Tick) (id : UnitId) (g : Gathered) :
    (hostOf config now id unit g).Matches r :=
  ⟨pieces, values⟩

theorem runTick_solo (config : Config) (now : Tick) (id : UnitId) (unit : UnitState)
    (g : Gathered) :
    (runTick config now unit.environment (hostOf config now id unit g)).Alike UnitHost.Matches
      (unit.soloTick config now) :=
  runTick_alike (matches_hostOf rfl rfl ..) UnitHost.simulation_matches config now unit.environment

theorem tickUnit_solo (config : Config) (now : Tick) (id : UnitId) (unit : UnitState)
    (g : Gathered) : (tickUnit config now id unit g).1 = unit.next config now := by
  obtain ⟨environment, ⟨pieces, values⟩, -⟩ := runTick_solo config now id unit g
  rw [tickUnit_eq, UnitState.next, ← environment, ← pieces, ← values]

theorem turnMachines_solo (config : Config) (now : Tick) (id : UnitId) (unit : UnitState)
    (g : Gathered) :
    ((turnMachines config now id unit g).flatMap fun m =>
      (m.acts config now config.runtime.maxInstructionsPerRun).map (m.thread.id, ·)) =
        unit.acts config now := by
  have start : TickState.Alike UnitHost.Matches
      { environment := unit.environment, host := hostOf config now id unit g }
      { environment := unit.environment, host := unit.recorder } :=
    ⟨rfl, matches_hostOf rfl rfl .., rfl⟩
  refine start.flatMap_machines UnitHost.simulation_matches config now _ ?_
  intro m m' alike
  rw [alike.acts_eq UnitHost.simulation_matches, alike.thread]

variable (w : World)

theorem units_tick (id : UnitId) :
    w.tick.2.units[id]? = w.units[id]?.map (UnitState.next w.config w.now) := by
  cases live : w.units[id]? with
  | none => exact units_tick_of_missing live
  | some unit =>
    obtain ⟨g, turn⟩ := exists_turn live
    rw [units_tick_iff.mpr ⟨unit, g, turn, rfl⟩, tickUnit_solo]
    rfl

theorem reports_solo :
    w.tick.1 = w.units.toList.map fun (id, unit) =>
      (id, (unit.soloTick w.config w.now).report) := by
  rw [reports_tick, ← Table.map_visits (tickUnit w.config w.now) w.units.toList
    { queues := w.queues }, List.map_map]
  refine List.map_congr_left ?_
  rintro ⟨id, unit, g⟩ -
  exact congrArg (id, ·) (runTick_solo w.config w.now id unit g).report

theorem acts_solo (tick : Nat) :
    w.acts tick = w.units.toList.flatMap fun (id, unit) =>
      (unit.acts w.config w.now).map fun (thread, place, act) =>
        (⟨tick, id, thread, place⟩, act) := by
  rw [← Table.map_visits (tickUnit w.config w.now) w.units.toList { queues := w.queues },
    List.flatMap_map, acts, turns]
  congr 1
  funext turn
  obtain ⟨id, unit, g⟩ := turn
  dsimp only
  rw [← turnMachines_solo w.config w.now id unit g, List.map_flatMap]
  simp only [List.map_map, Function.comp_def]

end World

end UnitScript
