import UnitScript.Instr.Basic
import UnitScript.Json.Basic

namespace UnitScript

namespace Axis

def all : List Axis := [x, y, z]

def decode? (reader : Json.Reader) (v : Json) : Option Axis := do
  let name ← v.tag? reader
  all.find? (·.name = name)

end Axis

namespace BinaryOp

def name : BinaryOp → String
  | .add => "Add"
  | .sub => "Sub"
  | .mul => "Mul"
  | .div => "Div"
  | .lt => "Lt"
  | .le => "Le"
  | .eq => "Eq"
  | .ne => "Ne"
  | .gt => "Gt"
  | .ge => "Ge"
  | .logicalAnd => "LogicalAnd"
  | .logicalOr => "LogicalOr"
  | .logicalXor => "LogicalXor"
  | .bitAnd => "BitAnd"
  | .bitOr => "BitOr"
  | .bitXor => "BitXor"

def all : List BinaryOp :=
  [add, sub, mul, div, lt, le, eq, ne, gt, ge, logicalAnd, logicalOr, logicalXor, bitAnd, bitOr,
    bitXor]

end BinaryOp

namespace UnaryOp

def name : UnaryOp → String
  | .logicalNot => "LogicalNot"
  | .bitNot => "BitNot"

def all : List UnaryOp := [logicalNot, bitNot]

end UnaryOp

namespace Animation

def name : Animation → String
  | .move => "MoveObject"
  | .moveNow => "MoveObjectNow"
  | .turn => "TurnObject"
  | .turnNow => "TurnObjectNow"
  | .spin => "SpinObject"
  | .stopSpin => "StopSpinObject"

end Animation

namespace Motion

def name : Motion → String
  | .move => "WaitForMove"
  | .turn => "WaitForTurn"

end Motion

namespace Burst

def name : Burst → String
  | .explosion => "Explode"
  | .smoke => "EmitSmoke"

end Burst

namespace PieceFlag

def name : PieceFlag → Bool → String
  | .visible, true => "ShowObject"
  | .visible, false => "HideObject"
  | .shaded, true => "EnableShading"
  | .shaded, false => "DisableShading"
  | .cached, true => "EnableCaching"
  | .cached, false => "DisableCaching"

end PieceFlag

namespace Instr

def name : Instr → String
  | .binary op => op.name
  | .unary op => op.name
  | .jump _ => "Jump"
  | .jumpIfZero _ => "JumpIfZero"
  | .animate animation _ _ => animation.name
  | .burst kind _ => kind.name
  | .setFlag flag on _ => flag.name on
  | .attachUnit => "AttachUnit"
  | .detachUnit => "DetachUnit"
  | .waitFor motion _ _ => motion.name
  | .sleep => "Sleep"
  | .callScript _ _ => "CallScript"
  | .startScript _ _ => "StartScript"
  | .returnFromScript => "ReturnFromScript"
  | .sendSignal => "SendSignal"
  | .setSignalMask => "SetSignalMask"
  | .createLocal => "CreateLocalVariable"
  | .pushConstant _ => "PushConstant"
  | .pushLocal _ => "PushLocalVariable"
  | .popLocal _ => "PopLocalVariable"
  | .pushStatic _ => "PushStaticVariable"
  | .popStatic _ => "PopStaticVariable"
  | .popStack => "PopStack"
  | .getUnitValue => "GetUnitValue"
  | .setUnitValue => "SetUnitValue"
  | .randomNumber => "RandomNumber"

def plain : List Instr :=
  BinaryOp.all.map binary ++ UnaryOp.all.map unary ++
    [attachUnit, detachUnit, sleep, returnFromScript, sendSignal, setSignalMask, createLocal,
      popStack, getUnitValue, setUnitValue, randomNumber]

def encodeAxis (piece : PieceId) (axis : Axis) : Json :=
  .obj [("piece", .ofNat piece.index), ("axis", .str axis.name)]

def encodeInvocation (script : ScriptId) (argc : UInt8) : Json :=
  .obj [("script", .ofNat script.index), ("argc", .ofNat argc.toNat)]

/-- The operands below an instruction's name; none for an instruction that is only a name. -/
def operands? : Instr → Option Json
  | .jump target | .jumpIfZero target => some (.ofNat target.toNat)
  | .animate _ piece axis | .waitFor _ piece axis => some (encodeAxis piece axis)
  | .burst _ piece | .setFlag _ _ piece => some (.ofNat piece.index)
  | .callScript script argc | .startScript script argc => some (encodeInvocation script argc)
  | .pushConstant value => some (.ofInt32 value)
  | .pushLocal slot | .popLocal slot | .pushStatic slot | .popStatic slot =>
    some (.ofNat slot.toNat)
  | _ => none

def encode (i : Instr) : Json :=
  match i.operands? with
  | none => .str i.name
  | some operands => .obj [(i.name, operands)]

def pieceId? (v : Json) : Option PieceId := v.uint16?.map .mk

def scriptId? (v : Json) : Option ScriptId := v.uint16?.map .mk

def axisFields : List String := ["piece", "axis"]

def invocationFields : List String := ["script", "argc"]

def withAxis? (reader : Json.Reader) (make : PieceId → Axis → Instr) (v : Json) :
    Option Instr := do
  let fields ← v.record? reader.listedOperands reader.surplus axisFields
  let piece ← Json.required fields "piece" pieceId?
  return make piece (← Json.required fields "axis" (Axis.decode? reader))

def withInvocation? (reader : Json.Reader) (make : ScriptId → UInt8 → Instr) (v : Json) :
    Option Instr := do
  let fields ← v.record? reader.listedOperands reader.surplus invocationFields
  let script ← Json.required fields "script" scriptId?
  return make script (← Json.required fields "argc" Json.uint8?)

def decodeOperands? (reader : Json.Reader) (name : String) (v : Json) : Option Instr :=
  match name with
  | "Jump" => v.uint32?.map jump
  | "JumpIfZero" => v.uint32?.map jumpIfZero
  | "MoveObject" => withAxis? reader (animate .move) v
  | "MoveObjectNow" => withAxis? reader (animate .moveNow) v
  | "TurnObject" => withAxis? reader (animate .turn) v
  | "TurnObjectNow" => withAxis? reader (animate .turnNow) v
  | "SpinObject" => withAxis? reader (animate .spin) v
  | "StopSpinObject" => withAxis? reader (animate .stopSpin) v
  | "WaitForMove" => withAxis? reader (waitFor .move) v
  | "WaitForTurn" => withAxis? reader (waitFor .turn) v
  | "Explode" => (pieceId? v).map (burst .explosion)
  | "EmitSmoke" => (pieceId? v).map (burst .smoke)
  | "ShowObject" => (pieceId? v).map (setFlag .visible true)
  | "HideObject" => (pieceId? v).map (setFlag .visible false)
  | "EnableShading" => (pieceId? v).map (setFlag .shaded true)
  | "DisableShading" => (pieceId? v).map (setFlag .shaded false)
  | "EnableCaching" => (pieceId? v).map (setFlag .cached true)
  | "DisableCaching" => (pieceId? v).map (setFlag .cached false)
  | "CallScript" => withInvocation? reader callScript v
  | "StartScript" => withInvocation? reader startScript v
  | "PushConstant" => v.int32?.map pushConstant
  | "PushLocalVariable" => v.uint16?.map pushLocal
  | "PopLocalVariable" => v.uint16?.map popLocal
  | "PushStaticVariable" => v.uint16?.map pushStatic
  | "PopStaticVariable" => v.uint16?.map popStatic
  | _ => none

def ofName? (name : String) : Option Instr :=
  plain.find? (·.name = name)

def decode? (reader : Json.Reader) (v : Json) : Option Instr :=
  match v.alternative? reader with
  | some (name, .null) => ofName? name
  | some (name, operands) => decodeOperands? reader name operands
  | none => none

end Instr

end UnitScript
