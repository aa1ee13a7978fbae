import UnitScript.Module.Builder
import UnitScript.Tick

namespace UnitScript

structure Recorder where
  pieces : PieceSet
  values : Table Int32 Int32 := ∅
  acts : Array Act := #[]
  faults : Array (ThreadId × Fault) := #[]
  deriving DecidableEq

def Recorder.value (r : Recorder) (key : Int32) : Int32 := r.values[key]?.getD 0

def Recorder.setValue (r : Recorder) (key value : Int32) : Recorder :=
  { r with values := r.values.insert key value }

instance : Host Recorder where
  pieces r := r.pieces
  request id request r := { r with pieces := r.pieces.perform id request }
  act act r := { r with acts := r.acts.push act }
  value key r := r.value key
  setValue key value r := r.setValue key value
  reportFault thread fault r := { r with faults := r.faults.push (thread, fault) }

structure Sandbox where
  host : Recorder
  environment : Environment
  config : Config
  now : Tick := 0
  deriving DecidableEq

inductive SandboxError
  | cannotStart (name : String) (error : StartError)
  | noThread (id : ThreadId)
  deriving DecidableEq

def SandboxError.message : SandboxError → String
  | .cannotStart name error => s!"cannot start {name}: {error.message}"
  | .noThread id => s!"no thread #{id}"

namespace Sandbox

def create (module : Module) (config : Config) : Sandbox where
  host := { pieces := .ofCount module.pieceCount }
  environment := .create module 1 config.runtime.seed
  config

def start (s : Sandbox) (name : String) (args : List Int32) :
    Except SandboxError (ThreadId × Sandbox) :=
  match s.environment.startScript name args with
  | .ok (id, environment) => .ok (id, { s with environment })
  | .error error => .error (.cannotStart name error)

/-- Run one thread outside any tick, whatever it may be waiting for. -/
def run (s : Sandbox) (id : ThreadId) : Except SandboxError (Status × Sandbox) :=
  match s.environment.thread? id with
  | none => .error (.noThread id)
  | some thread =>
    let (status, m) :=
      Machine.run s.config s.now s.config.runtime.maxInstructionsPerRun
        { thread, environment := s.environment.detach id, host := s.host }
    .ok (status,
      { s with
        host := m.host
        environment := if status.isLive then m.environment.restore m.thread else m.environment })

def tick (s : Sandbox) : TickReport × Sandbox :=
  let t := runTick s.config s.now s.environment s.host
  (t.report,
    { s with
      host := { t.host with pieces := t.host.pieces.advance }
      environment := t.environment
      now := s.now + 1 })

end Sandbox

inductive EvalError
  | badModule (error : ModuleError)
  | fault (kind : FaultKind)
  | incomplete (status : Status)
  | sandbox (error : SandboxError)
  deriving DecidableEq

namespace EvalError

def reasonText : BlockReason → String
  | .sleep deadline => s!"Sleep \x7b until: {deadline} \x7d"
  | .motion .move piece axis => s!"Move \x7b piece: {piece}, axis: {axis.name} \x7d"
  | .motion .turn piece axis => s!"Turn \x7b piece: {piece}, axis: {axis.name} \x7d"

def statusText : Status → String
  | .continuing => "Continuing"
  | .blocked reason => s!"Blocked({reasonText reason})"
  | .finished => "Finished"
  | .killed signal => s!"Killed \x7b signal: {signal} \x7d"
  | .faulted f => s!"Faulted({f.message})"

def message : EvalError → String
  | .badModule error => s!"bad test module: {error.message}"
  | .fault kind => kind.message
  | .incomplete status => s!"script did not complete: {statusText status}"
  | .sandbox error => error.message

end EvalError

/-- A module whose only script runs the instructions and leaves the value on top in static 0. -/
def evalModule (instrs : List Instr) : Except ModuleError Module :=
  let (_, b) := ({} : ModuleBuilder).piece "base"
  let b := b.staticSlots 1
  let (_, b) := b.beginScript "Main" 0 4
  ((b.emitAll instrs).emitAll [.popStatic 0, .returnFromScript]).build

def evalInstrs (instrs : List Instr) (config : Config) : Except EvalError Int32 := do
  let module ← (evalModule instrs).mapError .badModule
  let (id, s) ← ((Sandbox.create module config).start "Main" []).mapError .sandbox
  let (status, s) ← (s.run id).mapError .sandbox
  match status with
  | .finished => (s.environment.getStatic 0).mapError .fault
  | .faulted fault => .error (.fault fault.kind)
  | status => .error (.incomplete status)

end UnitScript
