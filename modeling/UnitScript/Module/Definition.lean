import UnitScript.Instr.Basic

namespace UnitScript

instance : ToString PieceId := ⟨fun p => s!"PieceId({p.word})"⟩

instance : ToString ScriptId := ⟨fun s => s!"ScriptId({s.word})"⟩

structure EntryPoint where
  name : String
  offset : Offset
  params : UInt16 := 0
  /-- All locals of a frame, parameters included. -/
  locals : UInt16 := 0
  deriving DecidableEq

structure ModuleDefinition where
  pieces : Array String := #[]
  statics : UInt16 := 0
  scripts : Array EntryPoint := #[]
  code : Array Instr := #[]
  deriving DecidableEq

inductive ModuleError
  | unknownEntryPoint (name : String)
  | unknownPiece (name : String)
  | duplicateEntryPoint (name : String)
  | duplicatePiece (name : String)
  | tooManyPieces (count : Nat)
  | tooManyScripts (count : Nat)
  | undefinedEntryPoint (name : String)
  | paramsExceedLocals (name : String) (params locals : UInt16)
  | entryOutOfRange (name : String) (offset : Offset)
  | jumpOutOfRange (place : Nat) (target : Offset)
  | scriptOutOfRange (place : Nat) (script : ScriptId)
  | pieceOutOfRange (place : Nat) (piece : PieceId)
  | staticOutOfRange (place : Nat) (slot count : UInt16)
  | tooManyArguments (place : Nat) (name : String) (argc : UInt8) (locals : UInt16)
  | notAJump (place : Nat)
  deriving DecidableEq

def ModuleError.message : ModuleError → String
  | .unknownEntryPoint name => s!"Unknown entry point: {name}"
  | .unknownPiece name => s!"Unknown piece: {name}"
  | .duplicateEntryPoint name => s!"Duplicate entry point: {name}"
  | .duplicatePiece name => s!"Duplicate piece: {name}"
  | .tooManyPieces count =>
    s!"Module declares {count} pieces, more than a piece id can address"
  | .tooManyScripts count =>
    s!"Module declares {count} entry points, more than a script id can address"
  | .undefinedEntryPoint name => s!"Entry point {name} was declared but never given a body"
  | .paramsExceedLocals name params locals =>
    s!"Entry point {name} declares {params} parameters but only {locals} locals"
  | .entryOutOfRange name offset =>
    s!"Entry point {name} starts at Offset({offset}), past the end of the code"
  | .jumpOutOfRange place target =>
    s!"Instruction at {place} jumps to Offset({target}), past the end of the code"
  | .scriptOutOfRange place script =>
    s!"Instruction at {place} references undeclared script {script}"
  | .pieceOutOfRange place piece =>
    s!"Instruction at {place} references undeclared piece {piece}"
  | .staticOutOfRange place slot count =>
    s!"Instruction at {place} references static slot {slot}, module has {count}"
  | .tooManyArguments place name argc locals =>
    s!"Instruction at {place} passes {argc} arguments to {name}, which has {locals} locals"
  | .notAJump place => s!"Instruction at {place} is not a jump and cannot be patched"

end UnitScript
