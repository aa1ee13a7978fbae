import UnitScript.Module.Basic

namespace UnitScript

structure Declaration where
  name : String
  params : UInt16
  locals : UInt16
  offset : Option Offset := none
  deriving DecidableEq

structure UndeclaredScript where
  count : Nat
  index : Nat
  deriving DecidableEq

def UndeclaredScript.message (e : UndeclaredScript) : String :=
  s!"index out of bounds: the len is {e.count} but the index is {e.index}"

structure ModuleBuilder where
  pieces : Array String := #[]
  statics : UInt16 := 0
  scripts : Array Declaration := #[]
  code : Array Instr := #[]
  deriving DecidableEq

namespace ModuleBuilder

def position (b : ModuleBuilder) : Offset := UInt32.ofNat b.code.size

def piece (b : ModuleBuilder) (name : String) : PieceId × ModuleBuilder :=
  match b.pieces.findIdx? (· = name) with
  | some i => (⟨UInt16.ofNat i⟩, b)
  | none => (⟨UInt16.ofNat b.pieces.size⟩, { b with pieces := b.pieces.push name })

def staticSlots (b : ModuleBuilder) (count : UInt16) : ModuleBuilder :=
  { b with statics := count }

/-- Declare a script; one that is already there keeps its id and its locals. -/
def declare (b : ModuleBuilder) (name : String) (params locals : UInt16) :
    ScriptId × ModuleBuilder :=
  match b.scripts.findIdx? (·.name = name) with
  | some i => (⟨UInt16.ofNat i⟩, b)
  | none =>
    (⟨UInt16.ofNat b.scripts.size⟩, { b with scripts := b.scripts.push { name, params, locals } })

def place (b : ModuleBuilder) (id : ScriptId) : ModuleBuilder :=
  { b with scripts := b.scripts.modify id.index ({ · with offset := some b.position }) }

def define (b : ModuleBuilder) (id : ScriptId) : Except UndeclaredScript ModuleBuilder :=
  if id.index < b.scripts.size then .ok (b.place id)
  else .error ⟨b.scripts.size, id.index⟩

def beginScript (b : ModuleBuilder) (name : String) (params locals : UInt16) :
    ScriptId × ModuleBuilder :=
  let (id, b) := b.declare name params locals
  (id, b.place id)

def emit (b : ModuleBuilder) (i : Instr) : Nat × ModuleBuilder :=
  (b.code.size, { b with code := b.code.push i })

def emitAll (b : ModuleBuilder) (instrs : List Instr) : ModuleBuilder :=
  { b with code := b.code ++ instrs }

def patchJump (b : ModuleBuilder) (place : Nat) (target : Offset) :
    Except ModuleError ModuleBuilder :=
  match b.code[place]?.bind (·.withTarget? target) with
  | some jump => .ok { b with code := b.code.setIfInBounds place jump }
  | none => .error (.notAJump place)

def entryPoints (b : ModuleBuilder) : Except ModuleError (List EntryPoint) :=
  b.scripts.toList.mapM fun script =>
    match script.offset with
    | some offset =>
      .ok { name := script.name, offset, params := script.params, locals := script.locals }
    | none => .error (.undefinedEntryPoint script.name)

def build (b : ModuleBuilder) : Except ModuleError Module := do
  let scripts ← b.entryPoints
  Module.ofDefinition
    { pieces := b.pieces, statics := b.statics, scripts := scripts.toArray, code := b.code }

end ModuleBuilder

end UnitScript
