import UnitScript.Piece.Channel

namespace UnitScript

structure Piece where
  linear : PerAxis Slide := .uniform {}
  angular : PerAxis Swivel := .uniform {}
  visible : Bool := true
  shaded : Bool := true
  cached : Bool := true
  deriving DecidableEq, Inhabited

inductive PieceRequest
  | moveTo (axis : Axis) (target speed : Int32)
  | moveNow (axis : Axis) (value : Int32)
  | turnTo (axis : Axis) (target speed : Single)
  | turnNow (axis : Axis) (angle : Single)
  | spin (axis : Axis) (speed acceleration : Single)
  | stopSpin (axis : Axis) (deceleration : Single)
  | setFlag (flag : PieceFlag) (on : Bool)
  deriving DecidableEq

namespace Piece

def setFlag (p : Piece) (flag : PieceFlag) (on : Bool) : Piece :=
  match flag with
  | .visible => { p with visible := on }
  | .shaded => { p with shaded := on }
  | .cached => { p with cached := on }

def perform (p : Piece) : PieceRequest → Piece
  | .moveTo axis target speed => { p with linear := p.linear.modify (·.moveTo target speed) axis }
  | .moveNow axis value => { p with linear := p.linear.modify (·.moveNow value) axis }
  | .turnTo axis target speed =>
    { p with angular := p.angular.modify (·.turnTo target speed) axis }
  | .turnNow axis angle => { p with angular := p.angular.modify (·.turnNow angle) axis }
  | .spin axis speed acceleration =>
    { p with angular := p.angular.modify (·.spin speed acceleration) axis }
  | .stopSpin axis deceleration =>
    { p with angular := p.angular.modify (·.stopSpin deceleration) axis }
  | .setFlag flag on => p.setFlag flag on

def advance (p : Piece) : Piece :=
  { p with linear := p.linear.map Slide.advance, angular := p.angular.map Swivel.advance }

end Piece

structure PieceSet where
  pieces : Array Piece
  deriving DecidableEq

namespace PieceSet

def ofCount (count : Nat) : PieceSet := ⟨Array.replicate count {}⟩

instance : Inhabited PieceSet := ⟨ofCount 0⟩

def size (s : PieceSet) : Nat := s.pieces.size

def piece? (s : PieceSet) (id : PieceId) : Option Piece := s.pieces[id.index]?

def perform (s : PieceSet) (id : PieceId) (request : PieceRequest) : PieceSet :=
  ⟨s.pieces.modify id.index (·.perform request)⟩

def advance (s : PieceSet) : PieceSet := ⟨s.pieces.map Piece.advance⟩

def isInMotion (s : PieceSet) (motion : Motion) (id : PieceId) (axis : Axis) : Bool :=
  match s.piece? id, motion with
  | none, _ => false
  | some p, .move => (p.linear.get axis).isMoving
  | some p, .turn => (p.angular.get axis).isTurning

@[simp] theorem size_perform (s : PieceSet) (id : PieceId) (request : PieceRequest) :
    (s.perform id request).size = s.size := by
  simp [size, perform]

@[simp] theorem size_advance (s : PieceSet) : s.advance.size = s.size := by
  simp [size, advance]

end PieceSet

end UnitScript
