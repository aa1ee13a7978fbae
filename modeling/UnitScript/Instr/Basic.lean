namespace UnitScript

abbrev Offset := UInt32

structure PieceId where
  word : UInt16
  deriving DecidableEq, Inhabited

structure ScriptId where
  word : UInt16
  deriving DecidableEq, Inhabited

def PieceId.index (p : PieceId) : Nat := p.word.toNat

def ScriptId.index (s : ScriptId) : Nat := s.word.toNat

inductive Axis
  | x
  | y
  | z
  deriving DecidableEq

def Axis.name : Axis → String
  | .x => "X"
  | .y => "Y"
  | .z => "Z"

inductive BinaryOp
  | add
  | sub
  | mul
  | div
  | lt
  | le
  | eq
  | ne
  | gt
  | ge
  | logicalAnd
  | logicalOr
  | logicalXor
  | bitAnd
  | bitOr
  | bitXor
  deriving DecidableEq

inductive UnaryOp
  | logicalNot
  | bitNot
  deriving DecidableEq

inductive Animation
  | move
  | moveNow
  | turn
  | turnNow
  | spin
  | stopSpin
  deriving DecidableEq

/-- The motions that arrive somewhere, so that a thread can wait for them. -/
inductive Motion
  | move
  | turn
  deriving DecidableEq

inductive Burst
  | explosion
  | smoke
  deriving DecidableEq

inductive PieceFlag
  | visible
  | shaded
  | cached
  deriving DecidableEq

inductive Instr
  | binary (op : BinaryOp)
  | unary (op : UnaryOp)
  | jump (target : Offset)
  | jumpIfZero (target : Offset)
  | animate (animation : Animation) (piece : PieceId) (axis : Axis)
  | burst (burst : Burst) (piece : PieceId)
  | setFlag (flag : PieceFlag) (on : Bool) (piece : PieceId)
  | attachUnit
  | detachUnit
  | waitFor (motion : Motion) (piece : PieceId) (axis : Axis)
  | sleep
  | callScript (script : ScriptId) (argc : UInt8)
  | startScript (script : ScriptId) (argc : UInt8)
  | returnFromScript
  | sendSignal
  | setSignalMask
  | createLocal
  | pushConstant (value : Int32)
  | pushLocal (slot : UInt16)
  | popLocal (slot : UInt16)
  | pushStatic (slot : UInt16)
  | popStatic (slot : UInt16)
  | popStack
  | getUnitValue
  | setUnitValue
  | randomNumber
  deriving DecidableEq

namespace Instr

def jumpTarget? : Instr → Option Offset
  | .jump target | .jumpIfZero target => some target
  | _ => none

def piece? : Instr → Option PieceId
  | .animate _ piece _ | .burst _ piece | .setFlag _ _ piece | .waitFor _ piece _ => some piece
  | _ => none

def invocation? : Instr → Option (ScriptId × UInt8)
  | .callScript script argc | .startScript script argc => some (script, argc)
  | _ => none

def script? (i : Instr) : Option ScriptId := i.invocation?.map (·.1)

def staticSlot? : Instr → Option UInt16
  | .pushStatic slot | .popStatic slot => some slot
  | _ => none

def withTarget? (target : Offset) : Instr → Option Instr
  | .jump _ => some (.jump target)
  | .jumpIfZero _ => some (.jumpIfZero target)
  | _ => none

end Instr

end UnitScript
