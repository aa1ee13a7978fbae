import UnitScript.Table

/-!
JSON documents and the readers that descriptions are built from. A whole number is kept apart from
one written with a fraction or an exponent, because a field that asks for an integer refuses the
latter even when its value is whole.
-/

namespace UnitScript

/-- A JSON document. The number `decimal m e` stands for `m * 10 ^ e`. The fields of an object that
has been read stand in key order. -/
inductive Json
  | null
  | bool (value : Bool)
  | int (value : Int)
  | decimal (mantissa exponent : Int)
  | str (text : String)
  | arr (items : List Json)
  | obj (fields : List (String × Json))
  deriving Inhabited

namespace Json

def fields? : Json → Option (List (String × Json))
  | .obj fields => some fields
  | _ => none

def items? : Json → Option (List Json)
  | .arr items => some items
  | _ => none

def str? : Json → Option String
  | .str text => some text
  | _ => none

def bool? : Json → Option Bool
  | .bool value => some value
  | _ => none

def natBelow? (bound : Nat) : Json → Option Nat
  | .int (.ofNat n) => if n < bound then some n else none
  | _ => none

def uint8? (v : Json) : Option UInt8 :=
  (v.natBelow? UInt8.size).map UInt8.ofNat

def uint16? (v : Json) : Option UInt16 :=
  (v.natBelow? UInt16.size).map UInt16.ofNat

def uint32? (v : Json) : Option UInt32 :=
  (v.natBelow? UInt32.size).map UInt32.ofNat

def uint64? (v : Json) : Option UInt64 :=
  (v.natBelow? UInt64.size).map UInt64.ofNat

def size? (v : Json) : Option Nat :=
  v.natBelow? UInt64.size

def int32? : Json → Option Int32
  | .int n => if -0x80000000 ≤ n ∧ n < 0x80000000 then some (Int32.ofInt n) else none
  | _ => none

def list? {α : Type} (read : Json → Option α) (v : Json) : Option (List α) :=
  v.items?.bind (·.mapM read)

structure Reader where
  /-- An object names an alternative by its first key, whatever other keys it has. -/
  otherKeys : Bool
  /-- What belongs to an alternative may be listed in an array. -/
  listedOperands : Bool
  /-- An array may hold more items than there are fields to fill. -/
  surplus : Bool
  deriving DecidableEq

namespace Reader

/-- Reads a text while going through it. -/
def text : Reader where
  otherKeys := false
  listedOperands := true
  surplus := false

/-- Reads a document that has been taken in as a whole. -/
def only : Reader where
  otherKeys := false
  listedOperands := false
  surplus := false

/-- Reads description files. -/
def first : Reader where
  otherKeys := true
  listedOperands := true
  surplus := true

def field? (reader : Reader) : List (String × Json) → Option (String × Json)
  | [] => none
  | [field] => some field
  | field :: _ :: _ => if reader.otherKeys then some field else none

end Reader

/-- The alternative that a value names, with what stands below the name. Below a bare name stands
nothing, which is the same as a null. -/
def alternative? (reader : Reader) : Json → Option (String × Json)
  | .str name => some (name, .null)
  | .obj fields => reader.field? fields
  | _ => none

def tag? (reader : Reader) (v : Json) : Option String :=
  match v.alternative? reader with
  | some (name, .null) => some name
  | _ => none

/-- The members of a record with these fields. In an object no field may come twice; the items of an
array fill the fields in their order. -/
def record? (listed surplus : Bool) (keys : List String) : Json → Option (List (String × Json))
  | .obj members =>
    if ∀ key ∈ keys, members.countP (·.1 = key) ≤ 1 then some members else none
  | .arr items =>
    if listed ∧ (surplus ∨ items.length ≤ keys.length) then some (keys.zip items) else none
  | _ => none

def required {α : Type} (fields : List (String × Json)) (key : String) (read : Json → Option α) :
    Option α :=
  (fields.lookup key).bind read

def optional {α : Type} (fields : List (String × Json)) (key : String) (missing : α)
    (read : Json → Option α) : Option α :=
  match fields.lookup key with
  | none => some missing
  | some v => read v

/-- The object whose members are written in this order. Of several values for a key the last one
stands. -/
def ofMembers (members : List (String × Json)) : Json :=
  .obj (Std.ExtTreeMap.ofList members : Table String Json).toList

def ofNat (n : Nat) : Json := .int n

def ofInt32 (n : Int32) : Json := .int n.toInt

@[simp] theorem int32?_ofInt32 (n : Int32) : (ofInt32 n).int32? = some n := by
  have h : -0x80000000 ≤ n.toInt ∧ n.toInt < 0x80000000 := ⟨n.le_toInt, n.toInt_lt⟩
  simpa [ofInt32, int32?] using h

end Json

end UnitScript
