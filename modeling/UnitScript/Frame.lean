import UnitScript.Fault

/-!
Activations of scripts. A frame has as many slots as its script has locals, from the start and for
good; a slot can be addressed once it has been claimed. Arguments and parameters are claimed on
entry, the rest one by one.
-/

namespace UnitScript

structure Frame where
  script : ScriptId
  returnIp : Option Nat
  slots : Array Int32
  claimed : Nat
  deriving DecidableEq, Inhabited

namespace Frame

def fill (slots : Array Int32) (start : Nat) : List Int32 → Array Int32
  | [] => slots
  | value :: values => fill (slots.setIfInBounds start value) (start + 1) values

@[simp] theorem size_fill (slots : Array Int32) (start : Nat) (values : List Int32) :
    (fill slots start values).size = slots.size := by
  induction values generalizing slots start with
  | nil => rfl
  | cons value values ih => simp [fill, ih]

def enter (script : ScriptId) (returnIp : Option Nat) (width params : Nat) (args : List Int32) :
    Frame where
  script
  returnIp
  slots := fill (Array.replicate width 0) 0 args
  claimed := min width (max params args.length)

def width (f : Frame) : Nat := f.slots.size

def locals (f : Frame) : List Int32 := f.slots.toList.take f.claimed

def freeSlot (f : Frame) : Except FaultKind Nat :=
  if f.claimed < f.width then .ok f.claimed else .error (.outOfRange f.claimed f.width)

def claim (f : Frame) : Frame :=
  { f with slots := f.slots.setIfInBounds f.claimed 0, claimed := f.claimed + 1 }

def put (f : Frame) (slot : Nat) (value : Int32) : Frame :=
  { f with slots := f.slots.setIfInBounds slot value }

def createLocal (f : Frame) : Except FaultKind (Nat × Frame) := do
  let slot ← f.freeSlot
  return (slot, f.claim)

def getLocal (f : Frame) (slot : Nat) : Except FaultKind Int32 :=
  if slot < f.claimed then .ok (f.slots.getD slot 0) else .error (.outOfRange slot f.claimed)

def setLocal (f : Frame) (slot : Nat) (value : Int32) : Except FaultKind Frame := do
  let _ ← f.getLocal slot
  return f.put slot value

@[simp] theorem width_enter (script : ScriptId) (returnIp : Option Nat) (width params : Nat)
    (args : List Int32) : (enter script returnIp width params args).width = width := by
  simp [enter, Frame.width]

@[simp] theorem width_claim (f : Frame) : f.claim.width = f.width := by
  simp [claim, width]

@[simp] theorem width_put (f : Frame) (slot : Nat) (value : Int32) :
    (f.put slot value).width = f.width := by
  simp [put, width]

end Frame

end UnitScript
