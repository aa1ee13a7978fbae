import UnitScript.Proofs.World.Operation

namespace UnitScript

structure UnitState.Sound (config : Config) (u : UnitState) : Prop where
  environment : u.environment.Sound config
  pieces : u.pieces.size = u.environment.module.pieceCount

theorem UnitState.Sound.startScript {config : Config} {u : UnitState} (h : u.Sound config)
    {name : String} {args : List Int32} {thread : ThreadId} {environment : Environment}
    (started : u.environment.startScript name args = .ok (thread, environment)) :
    { u with environment }.Sound config := by
  refine ⟨h.environment.startScript started, ?_⟩
  obtain ⟨script, entry, -, -, rfl⟩ := Environment.startScript_eq_ok started
  exact h.pieces

theorem UnitState.Sound.sendSignal {config : Config} {u : UnitState} (h : u.Sound config)
    (signal : UInt32) : { u with environment := u.environment.sendSignal signal }.Sound config :=
  ⟨h.environment.sendSignal signal, h.pieces⟩

namespace World

structure Sound (w : World) : Prop where
  unit : ∀ {id : UnitId} {unit : UnitState}, w.units[id]? = some unit → unit.Sound w.config

variable {config : Config} {w w' : World} {id : UnitId} {unit : UnitState}

theorem sound_create (config : Config) : (create config).Sound := by
  refine ⟨?_⟩
  intro id unit live
  simp [create] at live

theorem Sound.insert (h : w.Sound) (sound : unit.Sound w.config) (config : w'.config = w.config)
    (units : w'.units = w.units.insert id unit) : w'.Sound := by
  refine ⟨?_⟩
  intro id' unit' live
  rw [units, Std.ExtTreeMap.getElem?_insert] at live
  rw [config]
  split at live
  · cases live
    exact sound
  · exact h.unit live

theorem sound_spawned (config : Config) (module : Module) (id : UnitId) (seed : UInt64) :
    UnitState.Sound config
      { environment := .create module id seed, pieces := .ofCount module.pieceCount } where
  environment := Environment.sound_create config module id seed
  pieces := by simp [PieceSet.ofCount, PieceSet.size, Environment.create]

theorem sound_tickUnit (sound : unit.Sound config) (now : Tick) (id : UnitId) (g : Gathered) :
    (tickUnit config now id unit g).1.Sound config := by
  rw [tickUnit_eq]
  refine ⟨sound_runTick sound.environment now _, ?_⟩
  rw [PieceSet.size_advance, module_runTick, ← sound.pieces]
  exact size_pieces_runTick config now unit.environment (hostOf config now id unit g)

theorem Sound.turn (h : w.Sound) {g : Gathered} (turn : (id, unit, g) ∈ w.turns) :
    unit.Sound w.config :=
  h.unit (Table.getElem?_of_mem_visits turn)

theorem Sound.tick (h : w.Sound) : w.tick.2.Sound := by
  refine ⟨?_⟩
  intro id unit live
  obtain ⟨before, g, turn, rfl⟩ := units_tick_iff.mp live
  exact sound_tickUnit (h.turn turn) w.now id g

theorem Sound.apply (h : w.Sound) (op : Operation) : (w.apply op).2.Sound := by
  cases op with
  | spawn module => exact h.insert (sound_spawned ..) rfl rfl
  | destroy id =>
    simp only [World.apply]
    split
    · next destroyed =>
      rw [destroy_eq_ok destroyed]
      refine ⟨?_⟩
      intro id' unit live
      rw [Std.ExtTreeMap.getElem?_erase] at live
      split at live
      · cases live
      · exact h.unit live
    · exact h
  | runScript id name args =>
    simp only [World.apply]
    split
    · next ran =>
      obtain ⟨unit, environment, live, started, rfl⟩ := runScript_eq_ok ran
      exact h.insert ((h.unit live).startScript started) rfl rfl
    · exact h
  | sendSignal id signal =>
    simp only [World.apply]
    split
    · next signalled =>
      obtain ⟨unit, live, -, rfl⟩ := sendSignal_eq_ok signalled
      exact h.insert ((h.unit live).sendSignal signal) rfl rfl
    · exact h
  | tick => exact h.tick
  | drainEffects => exact ⟨h.unit⟩

theorem sound_after (config : Config) (ops : List Operation) : ((create config).after ops).Sound :=
  after_induction ops (sound_create config) fun _ op h => h.apply op

theorem Sound.machine (h : w.Sound) {m : Machine UnitHost} (member : m ∈ w.machines) :
    m.Sound w.config ∧ (Host.pieces m.host).size = m.environment.module.pieceCount := by
  obtain ⟨⟨id, unit, g⟩, turn, member⟩ := List.mem_flatMap.mp member
  have sound := h.turn turn
  -- Both halves go back to the start of the turn, which keeps the module and the number of pieces.
  let P (s : TickState UnitHost) : Prop :=
    s.environment.Sound w.config ∧ (Host.pieces s.host).size = s.environment.module.pieceCount
  obtain ⟨s, thread, ⟨environment, pieces⟩, dispatched⟩ :=
    TickState.exists_of_mem_machines (P := P) ⟨sound.environment, sound.pieces⟩
      (fun s thread h => by
        have turn := TickState.turn_cases w.config w.now s thread
        exact ⟨turn.sound h.1, by rw [turn.size_pieces, turn.module_eq, h.2]⟩) member
  refine ⟨TickState.dispatch?_sound environment dispatched, ?_⟩
  obtain ⟨t, -, -, rfl⟩ := TickState.dispatch?_eq_some_iff.mp dispatched
  exact pieces

/-- Whatever was asked of a world, the threads of a live unit are filed under their ids, between
their turns and well formed, and the unit has the static variables and pieces of its module. -/
theorem live_threads_wellFormed (config : Config) (ops : List Operation)
    (live : ((create config).after ops).units[id]? = some unit) :
    (∀ key thread, unit.environment.thread? key = some thread →
      thread.id = key ∧ thread.AtRest unit.environment.module ∧ 1 ≤ thread.frames.depth ∧
        thread.WellFormed unit.environment.module config) ∧
      unit.environment.statics.size = unit.environment.module.staticCount ∧
      unit.pieces.size = unit.environment.module.pieceCount := by
  have sound := (sound_after config ops).unit live
  rw [config_after] at sound
  refine ⟨?_, sound.environment.statics, sound.pieces⟩
  intro key thread found
  have wellFormed := sound.environment.wellFormed found
  exact ⟨sound.environment.id_eq found, sound.environment.atRest found, wellFormed.one_le_depth,
    wellFormed⟩

def napping : Module where
  definition :=
    { scripts := #[{ name := "Main", offset := 0 }, { name := "Nap", offset := 3, locals := 2 }]
      code := #[.pushConstant 100, .callScript ⟨1⟩ 1, .returnFromScript, .pushLocal 0, .sleep,
        .returnFromScript] }
  checked := by decide +kernel

def nap : List Operation := [.spawn napping, .runScript 1 "Main" [], .tick]

theorem napping_thread_wellFormed :
    ∃ unit thread, ((create {}).after nap).units[(1 : UnitId)]? = some unit ∧
      unit.environment.thread? 1 = some thread ∧ thread.state = .blocked (.sleep 4) ∧
      thread.frames.depth = 2 ∧ thread.WellFormed unit.environment.module {} := by
  have asleep : (((create {}).after nap).units[(1 : UnitId)]?.bind fun unit =>
      (unit.environment.thread? 1).map fun thread => (thread.state, thread.frames.depth)) =
        some (.blocked (.sleep 4), 2) := by
    decide +kernel
  obtain ⟨unit, live, found⟩ := Option.bind_eq_some_iff.mp asleep
  obtain ⟨thread, found, h⟩ := Option.map_eq_some_iff.mp found
  obtain ⟨state, depth⟩ := Prod.mk.inj h
  have wellFormed := ((live_threads_wellFormed {} _ live).1 1 thread found).2.2.2
  exact ⟨unit, thread, live, found, state, depth, wellFormed⟩

theorem exists_machine_of_faulted {report : TickReport} {thread : ThreadId} {fault : Fault}
    (reported : (id, report) ∈ w.tick.1) (faulted : (thread, fault) ∈ report.faulted) :
    ∃ m ∈ w.machines, m.thread.id = thread ∧
      (m.run w.config w.now w.config.runtime.maxInstructionsPerRun).1 = .faulted fault := by
  rw [reports_tick, List.mem_map] at reported
  obtain ⟨⟨id, unit, g⟩, turn, same⟩ := reported
  cases same
  obtain ⟨m, member, ends⟩ := (TickState.mem_faulted_foldl_turn rfl).mp faulted
  exact ⟨m, List.mem_flatMap.mpr ⟨(id, unit, g), turn, member⟩, ends⟩

/-- In a world that can come about, a run of a thread faults only for what no check of a module can
see: the instruction it comes to cannot be carried out, for the cause that the fault tells. All
faults that a tick reports are of this kind. -/
theorem faulted_run_cause (config : Config) (ops : List Operation) :
    (∀ m ∈ ((create config).after ops).machines, ∀ (now : Tick) (budget : Nat) (fault : Fault),
      (m.run config now budget).1 = .faulted fault →
        ∃ last, m.Reaches config now last ∧ last.thread.ip = fault.ip ∧
          last.step config now = .error fault.kind ∧
          fault.kind.Cause config m.environment.module last.thread) ∧
    (∀ id report, (id, report) ∈ ((create config).after ops).tick.1 →
      ∀ thread fault, (thread, fault) ∈ report.faulted →
        ∃ m ∈ ((create config).after ops).machines, m.thread.id = thread ∧
          (m.run config ((create config).after ops).now
            config.runtime.maxInstructionsPerRun).1 = .faulted fault) := by
  constructor
  · intro m member now budget fault faulted
    obtain ⟨sound, pieces⟩ := (sound_after config ops).machine member
    rw [config_after] at sound
    obtain ⟨last, path, ip, error, cause⟩ := sound.cause_of_faulted faulted
    refine ⟨last, path, ip, error, ?_⟩
    rw [← path.module_eq]
    refine cause (Nat.le_of_eq ?_)
    rw [path.module_eq, path.size_pieces, pieces]
  · intro id report reported thread fault faulted
    have found := exists_machine_of_faulted reported faulted
    rw [config_after] at found
    exact found

def dividing : Module where
  definition :=
    { scripts := #[{ name := "Main", offset := 0 }]
      code := #[.pushConstant 1, .pushConstant 0, .binary .div, .returnFromScript] }
  checked := by decide +kernel

theorem dividing_run_cause :
    ∃ m ∈ ((create {}).after [.spawn dividing, .runScript 1 "Main" []]).machines,
      (m.run {} 0 10).1 = .faulted ⟨2, .arithmetic⟩ ∧
      ∃ last, m.Reaches {} 0 last ∧ last.thread.ip = 2 ∧
        m.environment.module.instr? 2 = some (.binary .div) := by
  have runs : (((create {}).after [.spawn dividing, .runScript 1 "Main" []]).machines.map
      fun m => (m.run {} 0 10).1) = [.faulted ⟨2, .arithmetic⟩] := by
    decide +kernel
  obtain ⟨m, member, faulted⟩ := List.mem_map.mp (runs ▸ List.mem_singleton_self _)
  obtain ⟨last, path, ip, -, cause⟩ := (faulted_run_cause {} _).1 m member 0 10 _ faulted
  have divides := cause.1
  rw [ip] at divides
  exact ⟨m, member, faulted, last, path, ip, divides⟩

end World

end UnitScript
