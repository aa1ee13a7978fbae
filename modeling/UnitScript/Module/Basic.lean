import Std.Data.TreeSet
import UnitScript.Module.Definition

/-!
Modules: descriptions in which every name is unique and every reference leads somewhere. The checks
go through the pieces, the scripts and the code in this order, and the first thing that is wrong is
the one reported.
-/

namespace UnitScript

namespace ModuleDefinition

def idSpace : Nat := UInt16.size

/-- Go through a table with its indices, telling `check` whether the name has been seen before. -/
def firstFailure {α : Type} (name : α → String) (check : Nat → Bool → α → Option ModuleError) :
    Nat → Std.TreeSet String → List α → Option ModuleError
  | _, _, [] => none
  | i, seen, a :: rest =>
    match check i (seen.contains (name a)) a with
    | some error => some error
    | none => firstFailure name check (i + 1) (seen.insert (name a)) rest

def pieceFailure? (d : ModuleDefinition) (i : Nat) (repeated : Bool) (name : String) :
    Option ModuleError :=
  if idSpace ≤ i then some (.tooManyPieces d.pieces.size)
  else if repeated then some (.duplicatePiece name)
  else none

def scriptFailure? (d : ModuleDefinition) (i : Nat) (repeated : Bool) (entry : EntryPoint) :
    Option ModuleError :=
  if idSpace ≤ i then some (.tooManyScripts d.scripts.size)
  else if repeated then some (.duplicateEntryPoint entry.name)
  else if entry.locals < entry.params then
    some (.paramsExceedLocals entry.name entry.params entry.locals)
  else if d.code.size ≤ entry.offset.toNat then some (.entryOutOfRange entry.name entry.offset)
  else none

def jumpFailure? (d : ModuleDefinition) (place : Nat) (i : Instr) : Option ModuleError :=
  i.jumpTarget?.bind fun target =>
    if d.code.size ≤ target.toNat then some (.jumpOutOfRange place target) else none

def pieceReferenceFailure? (d : ModuleDefinition) (place : Nat) (i : Instr) :
    Option ModuleError :=
  i.piece?.bind fun piece =>
    if d.pieces.size ≤ piece.index then some (.pieceOutOfRange place piece) else none

def staticFailure? (d : ModuleDefinition) (place : Nat) (i : Instr) : Option ModuleError :=
  i.staticSlot?.bind fun slot =>
    if d.statics ≤ slot then some (.staticOutOfRange place slot d.statics) else none

def invocationFailure? (d : ModuleDefinition) (place : Nat) (i : Instr) : Option ModuleError :=
  i.invocation?.bind fun (script, argc) =>
    match d.scripts[script.index]? with
    | none => some (.scriptOutOfRange place script)
    | some entry =>
      if entry.locals < argc.toUInt16 then
        some (.tooManyArguments place entry.name argc entry.locals)
      else none

def instrFailure? (d : ModuleDefinition) (place : Nat) (i : Instr) : Option ModuleError :=
  d.jumpFailure? place i <|> d.pieceReferenceFailure? place i <|> d.staticFailure? place i
    <|> d.invocationFailure? place i

def failure? (d : ModuleDefinition) : Option ModuleError :=
  firstFailure id d.pieceFailure? 0 ∅ d.pieces.toList
    <|> firstFailure EntryPoint.name d.scriptFailure? 0 ∅ d.scripts.toList
    <|> d.code.toList.zipIdx.findSome? fun (i, place) => d.instrFailure? place i

end ModuleDefinition

structure Module where
  definition : ModuleDefinition
  checked : definition.failure? = none

namespace Module

instance : DecidableEq Module := fun m n =>
  decidable_of_iff (m.definition = n.definition)
    ⟨fun h => by cases m; cases n; cases h; rfl, congrArg definition⟩

def ofDefinition (d : ModuleDefinition) : Except ModuleError Module :=
  match h : d.failure? with
  | some error => .error error
  | none => .ok ⟨d, h⟩

def instr? (m : Module) (ip : Nat) : Option Instr := m.definition.code[ip]?

def codeSize (m : Module) : Nat := m.definition.code.size

def pieceCount (m : Module) : Nat := m.definition.pieces.size

def scriptCount (m : Module) : Nat := m.definition.scripts.size

def staticCount (m : Module) : Nat := m.definition.statics.toNat

def script? (m : Module) (id : ScriptId) : Option EntryPoint := m.definition.scripts[id.index]?

def pieceName? (m : Module) (id : PieceId) : Option String := m.definition.pieces[id.index]?

def scriptNamed? (m : Module) (name : String) : Option ScriptId :=
  (m.definition.scripts.findIdx? (·.name = name)).map fun i => ⟨UInt16.ofNat i⟩

def pieceNamed? (m : Module) (name : String) : Option PieceId :=
  (m.definition.pieces.findIdx? (· = name)).map fun i => ⟨UInt16.ofNat i⟩

def entryPoint (m : Module) (name : String) : Except ModuleError ScriptId :=
  match m.scriptNamed? name with
  | some id => .ok id
  | none => .error (.unknownEntryPoint name)

def hasEntryPoint (m : Module) (name : String) : Bool := (m.scriptNamed? name).isSome

theorem index_lt_of_entryPoint {m : Module} {name : String} {id : ScriptId}
    (found : m.entryPoint name = .ok id) : id.index < m.definition.scripts.size := by
  unfold entryPoint at found
  split at found
  · next named =>
    cases found
    obtain ⟨i, first, rfl⟩ := Option.map_eq_some_iff.mp named
    obtain ⟨inside, -⟩ := Array.findIdx?_eq_some_iff_getElem.mp first
    exact Nat.lt_of_le_of_lt (Nat.mod_le i UInt16.size) inside
  · cases found

def entryPointOffset (m : Module) (name : String) : Except ModuleError Offset :=
  match found : m.entryPoint name with
  | .ok id =>
    have inside := index_lt_of_entryPoint found
    .ok m.definition.scripts[id.index].offset
  | .error error => .error error

def pieceIndex (m : Module) (name : String) : Except ModuleError PieceId :=
  match m.pieceNamed? name with
  | some id => .ok id
  | none => .error (.unknownPiece name)

theorem ofDefinition_eq_ok {d : ModuleDefinition} {m : Module} (h : ofDefinition d = .ok m) :
    m.definition = d := by
  unfold ofDefinition at h
  split at h <;> simp_all
  subst h
  rfl

end Module

end UnitScript
