import UnitScript.FixedPoint
import UnitScript.Instr.Basic

namespace UnitScript

structure PerAxis (α : Type) where
  x : α
  y : α
  z : α
  deriving DecidableEq, Inhabited

namespace PerAxis

variable {α β : Type}

def uniform (a : α) : PerAxis α := ⟨a, a, a⟩

def get (p : PerAxis α) : Axis → α
  | .x => p.x
  | .y => p.y
  | .z => p.z

def modify (p : PerAxis α) (f : α → α) : Axis → PerAxis α
  | .x => { p with x := f p.x }
  | .y => { p with y := f p.y }
  | .z => { p with z := f p.z }

def map (f : α → β) (p : PerAxis α) : PerAxis β := ⟨f p.x, f p.y, f p.z⟩

def toList (p : PerAxis α) : List α := [p.x, p.y, p.z]

@[simp] theorem get_modify (p : PerAxis α) (f : α → α) (i j : Axis) :
    (p.modify f i).get j = if i = j then f (p.get j) else p.get j := by
  cases i <;> cases j <;> rfl

@[simp] theorem get_map (p : PerAxis α) (f : α → β) (i : Axis) :
    (p.map f).get i = f (p.get i) := by
  cases i <;> rfl

end PerAxis

structure Move where
  target : Int32
  speed : UInt32
  deriving DecidableEq

structure Slide where
  position : Int32 := 0
  move : Option Move := none
  deriving DecidableEq, Inhabited

namespace Slide

def magnitude (n : Int32) : UInt32 := UInt32.ofNat n.toInt.natAbs

/-- Step toward a target by at most `step`. A step that stops short stays between the two. -/
def approach (current target : Int32) (step : UInt32) : Int32 :=
  let remaining := target.toInt - current.toInt
  if remaining.natAbs ≤ step.toNat then target
  else if 0 < remaining then Int32.ofInt (current.toInt + step.toNat)
  else Int32.ofInt (current.toInt - step.toNat)

def moveNow (_ : Slide) (value : Int32) : Slide := { position := value }

def moveTo (s : Slide) (target speed : Int32) : Slide :=
  if magnitude speed = 0 then s.moveNow target
  else { s with move := some ⟨target, magnitude speed⟩ }

def isMoving (s : Slide) : Bool := s.move.isSome

def advance (s : Slide) : Slide :=
  match s.move with
  | none => s
  | some m =>
    let next := approach s.position m.target m.speed
    { position := next, move := if next = m.target then none else some m }

end Slide

inductive Drive
  | turn (target speed : Single)
  /-- Rotation without end. The speed goes toward `targetSpeed` by `acceleration` a tick; one that
  is stopping ends when it has no speed left. -/
  | spin (speed targetSpeed acceleration : Single) (stopping : Bool)
  deriving DecidableEq

structure Swivel where
  rotation : Single := .zero
  drive : Option Drive := none
  deriving DecidableEq, Inhabited

namespace Single

/-- An angle above `-pi` and up to `pi`. -/
def normalize (angle : Single) : Single :=
  let a := angle.rem tau
  if a.le pi.neg then a + tau
  else if pi.lt a then a - tau
  else a

def approach (current target step : Single) : Single :=
  if (target - current).abs.le step then target
  else if current.lt target then current + step
  else current - step

end Single

namespace Swivel

def turnNow (_ : Swivel) (angle : Single) : Swivel := { rotation := angle.normalize }

def turnTo (s : Swivel) (target speed : Single) : Swivel :=
  if speed.abs.isZero then s.turnNow target
  else { s with drive := some (.turn target.normalize speed.abs) }

def spinSpeed (s : Swivel) : Single :=
  match s.drive with
  | some (.spin speed ..) => speed
  | _ => .zero

def spin (s : Swivel) (speed acceleration : Single) : Swivel :=
  let current := if acceleration.abs.isZero then speed else s.spinSpeed
  { s with drive := some (.spin current speed acceleration.abs false) }

/-- Wind a spin down. Without deceleration it ends at once; what is not a spin goes on. -/
def stopSpin (s : Swivel) (deceleration : Single) : Swivel :=
  match s.drive with
  | some (.spin speed ..) =>
    if deceleration.abs.isZero then { s with drive := none }
    else { s with drive := some (.spin speed .zero deceleration.abs true) }
  | _ => s

def isTurning (s : Swivel) : Bool :=
  match s.drive with
  | some (.turn ..) => true
  | _ => false

def isSpinning (s : Swivel) : Bool :=
  match s.drive with
  | some (.spin ..) => true
  | _ => false

def advanceTurn (s : Swivel) (target speed : Single) : Swivel :=
  let delta := (target - s.rotation).normalize
  if delta.abs.le speed then { rotation := target }
  else { s with rotation := (s.rotation + speed.copySign delta).normalize }

def advanceSpin (s : Swivel) (speed targetSpeed acceleration : Single) (stopping : Bool) :
    Swivel :=
  let speed := if acceleration.isZero then targetSpeed else speed.approach targetSpeed acceleration
  { rotation := (s.rotation + speed).normalize
    drive :=
      if stopping && speed.isZero then none
      else some (.spin speed targetSpeed acceleration stopping) }

def advance (s : Swivel) : Swivel :=
  match s.drive with
  | none => s
  | some (.turn target speed) => s.advanceTurn target speed
  | some (.spin speed targetSpeed acceleration stopping) =>
    s.advanceSpin speed targetSpeed acceleration stopping

end Swivel

end UnitScript
