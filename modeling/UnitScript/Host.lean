import UnitScript.Environment
import UnitScript.Piece.Basic

namespace UnitScript

inductive Act
  | burst (burst : Burst) (piece : PieceId) (kind : Int32)
  | attachUnit (piece : PieceId) (passenger : Int32)
  | detachUnit (passenger : Int32)
  deriving DecidableEq

class Host (σ : Type) where
  pieces : σ → PieceSet
  request : PieceId → PieceRequest → σ → σ
  act : Act → σ → σ
  /-- A value of the unit; a key that was never set has the value zero. -/
  value : Int32 → σ → Int32
  setValue : Int32 → Int32 → σ → σ
  reportFault : ThreadId → Fault → σ → σ

end UnitScript
