import UnitScript.Piece.Basic

namespace UnitScript

theorem PieceId.index_inj {p q : PieceId} : p.index = q.index ↔ p = q := by
  cases p
  cases q
  simp [PieceId.index, UInt16.toNat_inj]

namespace PieceSet

inductive Operation
  | perform (piece : PieceId) (request : PieceRequest)
  | advance
  deriving DecidableEq

def apply (s : PieceSet) : Operation → PieceSet
  | .perform piece request => s.perform piece request
  | .advance => s.advance

def after (s : PieceSet) (ops : List Operation) : PieceSet := ops.foldl apply s

def slide? (s : PieceSet) (piece : PieceId) (axis : Axis) : Option Slide :=
  (s.piece? piece).map (·.linear.get axis)

namespace Operation

/-- Whether an operation moves a piece along an axis, at once or from now on. -/
def moves (piece : PieceId) (axis : Axis) : Operation → Bool
  | .perform p (.moveTo a _ _) | .perform p (.moveNow a _) => p = piece ∧ a = axis
  | _ => false

end Operation

def advances (ops : List Operation) : Nat := ops.count .advance

theorem after_append (s : PieceSet) (ops ops' : List Operation) :
    s.after (ops ++ ops') = (s.after ops).after ops' :=
  List.foldl_append

end PieceSet

end UnitScript
