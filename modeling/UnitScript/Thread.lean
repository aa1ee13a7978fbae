import UnitScript.Config.Basic
import UnitScript.Frame
import UnitScript.Stack

namespace UnitScript

abbrev ThreadId := UInt64

inductive BlockReason
  | sleep (deadline : Tick)
  | motion (motion : Motion) (piece : PieceId) (axis : Axis)
  deriving DecidableEq

inductive RunState
  | ready
  | blocked (reason : BlockReason)
  | finished
  | faulted (fault : Fault)
  deriving DecidableEq

inductive Halt
  | blocked (reason : BlockReason)
  | finished
  | killed (signal : UInt32)
  deriving DecidableEq

inductive Status
  | continuing
  | blocked (reason : BlockReason)
  | finished
  | killed (signal : UInt32)
  | faulted (fault : Fault)
  deriving DecidableEq

def Halt.status : Halt → Status
  | .blocked reason => .blocked reason
  | .finished => .finished
  | .killed signal => .killed signal

def Status.isLive : Status → Bool
  | .continuing | .blocked _ => true
  | _ => false

structure Thread where
  id : ThreadId
  ip : Nat
  stack : Stack Int32
  frames : Stack Frame
  mask : UInt32
  state : RunState
  deriving DecidableEq

namespace Thread

def start (id : ThreadId) (script : ScriptId) (entry : EntryPoint) (args : List Int32)
    (mask : UInt32) : Thread where
  id
  ip := entry.offset.toNat
  stack := ∅
  frames := Stack.empty.push
    (.enter script none entry.locals.toNat entry.params.toNat args)
  mask
  state := .ready

def intercepts (t : Thread) (signal : UInt32) : Bool := t.mask &&& signal ≠ 0

@[inline] def push (t : Thread) (value : Int32) (limit : Nat) : Except FaultKind Thread :=
  if t.stack.depth < limit then .ok { t with stack := t.stack.push value }
  else .error (.stackOverflow limit)

@[inline] def pop (t : Thread) : Except FaultKind (Int32 × Thread) :=
  match t.stack.pop? with
  | some (value, stack) => .ok (value, { t with stack })
  | none => .error .stackUnderflow

@[inline] def popTwo (t : Thread) : Except FaultKind (Int32 × Int32 × Thread) := do
  let (upper, t) ← t.pop
  let (lower, t) ← t.pop
  return (upper, lower, t)

def popN (t : Thread) (count : Nat) : Except FaultKind (List Int32 × Thread) :=
  match t.stack.popN? count with
  | some (values, stack) => .ok (values, { t with stack })
  | none => .error .stackUnderflow

def pushFrame (t : Thread) (frame : Frame) (limit : Nat) : Except FaultKind Thread :=
  if t.frames.depth < limit then .ok { t with frames := t.frames.push frame }
  else .error (.stackOverflow limit)

@[inline] def popFrame (t : Thread) : Except FaultKind (Frame × Thread) :=
  match t.frames.pop? with
  | some (frame, frames) => .ok (frame, { t with frames })
  | none => .error .stackUnderflow

@[inline] def topFrame (t : Thread) : Except FaultKind Frame :=
  match t.frames.top? with
  | some frame => .ok frame
  | none => .error .stackUnderflow

def mapFrame (f : Frame → Frame) (t : Thread) : Thread :=
  { t with frames := t.frames.mapTop f }

def block (t : Thread) (reason : BlockReason) : Thread := { t with state := .blocked reason }

def wake (t : Thread) : Thread := { t with state := .ready }

def finish (t : Thread) : Thread := { t with stack := ∅, frames := ∅, state := .finished }

def fail (t : Thread) (fault : Fault) : Thread :=
  { t with stack := ∅, frames := ∅, state := .faulted fault }

def isRunnable (t : Thread) : Bool :=
  match t.state with
  | .ready | .blocked _ => true
  | _ => false

end Thread

end UnitScript
