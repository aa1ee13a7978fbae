import UnitScript.Module.Basic
import UnitScript.Random.Stream
import UnitScript.Random.Uniform
import UnitScript.Table
import UnitScript.Thread

namespace UnitScript

abbrev UnitId := UInt32

structure Environment where
  module : Module
  unit : UnitId
  statics : Array Int32
  threads : Table ThreadId Thread
  nextThread : ThreadId
  random : Random.Source
  deriving DecidableEq

inductive StartError
  | module (error : ModuleError)
  | thread (fault : FaultKind)
  deriving DecidableEq

def StartError.message : StartError → String
  | .module error => error.message
  | .thread fault => s!"cannot start thread: {fault.message}"

namespace Environment

/-- Spreads unit ids over the seeds, so that neighbours draw unrelated numbers. -/
def seedMix : UInt64 := 0x9E3779B97F4A7C15

def create (module : Module) (unit : UnitId) (seed : UInt64) : Environment where
  module
  unit
  statics := Array.replicate module.staticCount 0
  threads := ∅
  nextThread := 1
  random := .ofSeed (seed ^^^ unit.toUInt64 * seedMix)

def prepare (e : Environment) (script : ScriptId) (args : List Int32) (mask : UInt32) :
    Except FaultKind Thread :=
  match e.module.script? script with
  | none => .error (.unknownScript script)
  | some entry =>
    if entry.locals.toNat < args.length then .error (.outOfRange args.length entry.locals.toNat)
    else .ok (.start e.nextThread script entry args mask)

def enroll (e : Environment) (thread : Thread) : Environment :=
  { e with threads := e.threads.insert thread.id thread, nextThread := e.nextThread + 1 }

def createThread (e : Environment) (script : ScriptId) (args : List Int32) (mask : UInt32) :
    Except FaultKind (ThreadId × Environment) := do
  let thread ← e.prepare script args mask
  return (thread.id, e.enroll thread)

def startScript (e : Environment) (name : String) (args : List Int32) :
    Except StartError (ThreadId × Environment) :=
  match e.module.entryPoint name with
  | .error error => .error (.module error)
  | .ok script =>
    match e.createThread script args 0 with
    | .error fault => .error (.thread fault)
    | .ok result => .ok result

def intercepting (e : Environment) (signal : UInt32) : List ThreadId :=
  (e.threads.filter fun _ t => t.intercepts signal).keys

def sendSignal (e : Environment) (signal : UInt32) : Environment :=
  { e with threads := e.threads.filter fun _ t => !t.intercepts signal }

def getStatic (e : Environment) (slot : Nat) : Except FaultKind Int32 :=
  match e.statics[slot]? with
  | some value => .ok value
  | none => .error (.outOfRange slot e.statics.size)

def setStatic (e : Environment) (slot : Nat) (value : Int32) : Except FaultKind Environment :=
  if slot < e.statics.size then .ok { e with statics := e.statics.setIfInBounds slot value }
  else .error (.outOfRange slot e.statics.size)

def thread? (e : Environment) (id : ThreadId) : Option Thread := e.threads[id]?

def threadIds (e : Environment) : List ThreadId := e.threads.keys

def liveThreads (e : Environment) : Nat := e.threads.size

def detach (e : Environment) (id : ThreadId) : Environment :=
  { e with threads := e.threads.erase id }

def restore (e : Environment) (thread : Thread) : Environment :=
  { e with threads := e.threads.insert thread.id thread }

def draw (e : Environment) (low high : Int32) : Int32 × Environment :=
  let (value, random) := Random.uniform Random.Source.next low high e.random
  (value, { e with random })

end Environment

end UnitScript
