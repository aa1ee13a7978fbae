import UnitScript.Module.Definition

namespace UnitScript

inductive FaultKind
  | unknownInstr
  | stackUnderflow
  | outOfRange (slot size : Nat)
  | arithmetic
  | stackOverflow (limit : Nat)
  | unknownPiece (piece : PieceId)
  | unknownScript (script : ScriptId)
  deriving DecidableEq

def FaultKind.message : FaultKind → String
  | .unknownInstr => "no instruction at this position"
  | .stackUnderflow => "operand stack underflow"
  | .outOfRange slot size => s!"slot {slot} out of range (size {size})"
  | .arithmetic => "arithmetic fault"
  | .stackOverflow limit => s!"stack overflow (limit {limit})"
  | .unknownPiece piece => s!"unknown piece {piece}"
  | .unknownScript script => s!"unknown script {script}"

structure Fault where
  ip : Nat
  kind : FaultKind
  deriving DecidableEq

def Fault.message (f : Fault) : String := s!"{f.kind.message} at ip {f.ip}"

end UnitScript
