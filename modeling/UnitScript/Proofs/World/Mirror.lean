import Mathlib.Data.List.Forall2
import UnitScript.Proofs.World.Queues

namespace UnitScript

namespace Sandbox

inductive Operation
  | start (name : String) (args : List Int32)
  | sendSignal (signal : UInt32)
  | tick
  deriving DecidableEq

inductive Response
  | started (result : Except SandboxError ThreadId)
  | signalled (threads : List ThreadId)
  | ticked (report : TickReport)

def apply (s : Sandbox) : Operation → Response × Sandbox
  | .start name args =>
    match s.start name args with
    | .ok (thread, s) => (.started (.ok thread), s)
    | .error error => (.started (.error error), s)
  | .sendSignal signal =>
    (.signalled (s.environment.intercepting signal),
      { s with environment := s.environment.sendSignal signal })
  | .tick =>
    let (report, s) := s.tick
    (.ticked report, s)

def after (s : Sandbox) (ops : List Operation) : Sandbox :=
  ops.foldl (fun s op => (s.apply op).2) s

def responses : Sandbox → List Operation → List Response
  | _, [] => []
  | s, op :: rest => (s.apply op).1 :: responses (s.apply op).2 rest

def unit (s : Sandbox) : UnitState where
  environment := s.environment
  pieces := s.host.pieces
  values := s.host.values

def Operation.inWorld : Operation → World.Operation
  | .start name args => .runScript 1 name args
  | .sendSignal signal => .sendSignal 1 signal
  | .tick => .tick

inductive Response.Matches : Response → World.Response → Prop
  | started (thread : ThreadId) : Matches (.started (.ok thread)) (.started (.ok thread))
  | unknown (name : String) (error : ModuleError) :
    Matches (.started (.error (.cannotStart name (.module error))))
      (.started (.error (.module error)))
  | refused (name : String) (fault : FaultKind) :
    Matches (.started (.error (.cannotStart name (.thread fault))))
      (.started (.error (.badArguments name fault)))
  | signalled (threads : List ThreadId) : Matches (.signalled threads) (.signalled (.ok threads))
  | ticked (report : TickReport) : Matches (.ticked report) (.ticked [(1, report)])

end Sandbox

structure Recorder.Heard (before : Recorder) (told : List Emission) (r : Recorder) : Prop where
  acts : r.acts.toList = before.acts.toList ++ told.filterMap Emission.act?
  faults : r.faults.toList = before.faults.toList ++ told.filterMap Emission.fault?

theorem Recorder.hears_heard (before : Recorder) : Host.Hears before.Heard where
  request h _ _ := ⟨h.acts, h.faults⟩
  setValue h _ _ := ⟨h.acts, h.faults⟩
  act h act := by
    constructor
    · simp [Host.act, h.acts, Emission.act?]
    · simp [Host.act, h.faults, Emission.fault?]
  reportFault h thread fault := by
    constructor
    · simp [Host.reportFault, h.acts, Emission.act?]
    · simp [Host.reportFault, h.faults, Emission.fault?]

theorem Recorder.heard_runTick (config : Config) (now : Tick) (e : Environment) (r : Recorder) :
    r.Heard (tickEmissions config now e r) (runTick config now e r).host := by
  have start : r.Heard [] r := ⟨(List.append_nil _).symm, (List.append_nil _).symm⟩
  exact hears_runTick r.hears_heard start config now e

namespace World

structure Mirrors (s : Sandbox) (w : World) (c : Chronicle) : Prop where
  config : w.config = s.config
  now : w.now = s.now
  units : w.units.toList = [(1, s.unit)]
  effects : c.effects = s.host.acts.toList.map (⟨1, ·⟩)
  faults : (c.faults.map fun d => (d.unit, d.thread, d.fault)) =
    s.host.faults.toList.map fun (thread, fault) => (1, thread, fault)

variable {s : Sandbox} {w : World} {c : Chronicle}

theorem Mirrors.unit_eq (h : Mirrors s w c) : w.units[(1 : UnitId)]? = some s.unit := by
  rw [← Std.ExtTreeMap.mem_toList_iff_getElem?_eq_some, h.units]
  exact List.mem_singleton_self _

theorem Mirrors.turns (h : Mirrors s w c) :
    w.turns = [(1, s.unit, { queues := w.queues })] := by
  rw [World.turns, h.units]
  rfl

theorem Mirrors.runTick_alike (h : Mirrors s w c) :
    (runTick w.config w.now s.unit.environment
      (hostOf w.config w.now 1 s.unit { queues := w.queues })).Alike UnitHost.Matches
        (runTick s.config s.now s.environment s.host) := by
  rw [h.config, h.now]
  exact UnitScript.runTick_alike (matches_hostOf rfl rfl ..) UnitHost.simulation_matches ..

theorem Mirrors.emissions (h : Mirrors s w c) :
    w.emissions = (tickEmissions s.config s.now s.environment s.host).map (1, ·) := by
  rw [World.emissions, h.turns, h.config, h.now, List.flatMap_singleton]
  exact congrArg (List.map (1, ·))
    (tickEmissions_eq (matches_hostOf rfl rfl ..) UnitHost.simulation_matches ..)

theorem Mirrors.reports (h : Mirrors s w c) : w.tick.1 = [(1, s.tick.1)] := by
  rw [reports_tick, h.turns]
  exact congrArg (fun report => [(1, report)]) h.runTick_alike.report

theorem Mirrors.unit_tick (h : Mirrors s w c) :
    (tickUnit w.config w.now 1 s.unit { queues := w.queues }).1 = s.tick.2.unit := by
  obtain ⟨environment, ⟨pieces, values⟩, -⟩ := h.runTick_alike
  simp only [tickUnit_eq, environment, pieces, values]
  rfl

theorem Mirrors.tick (h : Mirrors s w c) : Mirrors s.tick.2 w.tick.2 (w.write c .tick) := by
  have heard := s.host.heard_runTick s.config s.now s.environment
  refine ⟨h.config, congrArg (· + 1) h.now, ?_, ?_, ?_⟩
  · have entries : w.tick.2.units.toList =
        [(1, (tickUnit w.config w.now 1 s.unit { queues := w.queues }).1)] := by
      change (Table.mapAccum _ w.units _).1.toList = _
      rw [Table.toList_mapAccum, h.units]
      rfl
    rw [entries, h.unit_tick]
  -- What the unit tells in the world is what the recorder hears, so both sides grow by the same.
  · have acts : s.tick.2.host.acts.toList = _ := heard.acts
    rw [effects_write_tick, h.effects, h.emissions, acts, List.map_append, List.filterMap_map,
      List.map_filterMap]
    rfl
  · have faults : s.tick.2.host.faults.toList = _ := heard.faults
    rw [faults_write_tick, List.map_append, h.faults, h.emissions, faults, List.map_append,
      List.filterMap_map, List.map_filterMap, List.map_filterMap]
    congr 2
    funext emission
    cases emission <;> rfl

theorem Mirrors.apply (h : Mirrors s w c) (op : Sandbox.Operation) :
    (s.apply op).1.Matches (w.apply op.inWorld).1 ∧
      Mirrors (s.apply op).2 (w.apply op.inWorld).2 (w.write c op.inWorld) := by
  have unit : w.unit 1 = .ok s.unit := by rw [World.unit, h.unit_eq]
  cases op with
  | start name args =>
    simp only [Sandbox.Operation.inWorld, World.apply, runScript, unit, Sandbox.apply,
      Sandbox.start, bind, Except.bind]
    have environment : s.unit.environment = s.environment := rfl
    rw [environment]
    cases s.environment.startScript name args with
    | error error =>
      cases error with
      | module error => exact ⟨.unknown name error, h⟩
      | thread fault => exact ⟨.refused name fault, h⟩
    | ok started =>
      exact ⟨.started started.1, h.config, h.now, Table.toList_insert_of_singleton h.units _,
        h.effects, h.faults⟩
  | sendSignal signal =>
    simp only [Sandbox.Operation.inWorld, World.apply, World.sendSignal, unit, Sandbox.apply,
      bind, Except.bind]
    exact ⟨.signalled _, h.config, h.now, Table.toList_insert_of_singleton h.units _, h.effects,
      h.faults⟩
  | tick =>
    refine ⟨?_, h.tick⟩
    simp only [Sandbox.Operation.inWorld, World.apply, h.reports]
    exact .ticked s.tick.1

theorem Mirrors.after (h : Mirrors s w c) (ops : List Sandbox.Operation) :
    List.Forall₂ Sandbox.Response.Matches (s.responses ops) (w.responses (ops.map (·.inWorld))) ∧
      Mirrors (s.after ops) (w.after (ops.map (·.inWorld)))
        (chronicle w (ops.map (·.inWorld)) c) := by
  induction ops generalizing s w c with
  | nil => exact ⟨.nil, h⟩
  | cons op rest ih =>
    obtain ⟨here, next⟩ := h.apply op
    obtain ⟨later, last⟩ := ih next
    exact ⟨.cons here later, last⟩

def around (module : Module) (config : Config) : World := ((create config).spawn module).2

theorem mirrors_around (module : Module) (config : Config) :
    Mirrors (Sandbox.create module config) (around module config) {} where
  config := rfl
  now := rfl
  units := by
    change (Std.ExtTreeMap.insert ∅ _ _ : Table UnitId UnitState).toList = _
    rw [← Std.ExtTreeMap.ofList_singleton]
    exact Table.toList_ofList (List.pairwise_singleton ..)
  effects := rfl
  faults := rfl

/-- Whatever is asked of a sandbox and of a world that runs the same module, the answers match, the
unit of the sandbox is the unit of the world, with its environment, pieces and values, and the
clocks agree. The recorder holds the acts and the faults of the whole history of the world, and the
queues of the world hold the end of them. -/
theorem sandbox_mirrors_world (module : Module) (config : Config) (ops : List Sandbox.Operation) :
    List.Forall₂ Sandbox.Response.Matches ((Sandbox.create module config).responses ops)
      ((around module config).responses (ops.map (·.inWorld))) ∧
    Mirrors ((Sandbox.create module config).after ops)
      ((around module config).after (ops.map (·.inWorld)))
      (chronicle (around module config) (ops.map (·.inWorld)) {}) ∧
    Recorded ((around module config).after (ops.map (·.inWorld)))
      (chronicle (around module config) (ops.map (·.inWorld)) {}) := by
  obtain ⟨answers, mirrors⟩ := (mirrors_around module config).after ops
  have recorded := ((recorded_create config).apply (.spawn module)).after (ops.map (·.inWorld))
  exact ⟨answers, mirrors, recorded⟩

end World

end UnitScript
