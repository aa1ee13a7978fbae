import UnitScript.Instr.Codec
import UnitScript.Proofs.Json.Reading

namespace UnitScript

theorem Axis.decode?_eq_some_iff {reader : Json.Reader} {v : Json} {axis : Axis} :
    decode? reader v = some axis ↔ Json.Names reader v axis.name .null := by
  rw [← Json.tag?_eq_some_iff]
  simp only [decode?, Option.bind_eq_bind, Option.bind_eq_some_iff]
  constructor
  · rintro ⟨name, tag, found⟩
    have same := List.find?_some found
    simp only [decide_eq_true_eq] at same
    rw [tag, same]
  · intro tag
    refine ⟨_, tag, ?_⟩
    cases axis <;> rfl

namespace Instr

variable {reader : Json.Reader} {v : Json} {i : Instr}

def Operands (reader : Json.Reader) (keys : List String) (v : Json)
    (members : List (String × Json)) : Prop :=
  Json.IsRecord reader.listedOperands reader.surplus keys v members

def HoldsAxis (reader : Json.Reader) (piece : PieceId) (axis : Axis) (v : Json) : Prop :=
  ∃ members a, Operands reader axisFields v members ∧
    members.lookup "piece" = some (.int piece.index) ∧
    members.lookup "axis" = some a ∧ Json.Names reader a axis.name .null

def HoldsInvocation (reader : Json.Reader) (script : ScriptId) (argc : UInt8) (v : Json) : Prop :=
  ∃ members, Operands reader invocationFields v members ∧
    members.lookup "script" = some (.int script.index) ∧
    members.lookup "argc" = some (.int argc.toNat)

/-- The operands of an instruction, each in the shape and with the number that it has. -/
def HasOperands (reader : Json.Reader) : Instr → Json → Prop
  | .jump target, v | .jumpIfZero target, v => v = .int target.toNat
  | .animate _ piece axis, v | .waitFor _ piece axis, v => HoldsAxis reader piece axis v
  | .burst _ piece, v | .setFlag _ _ piece, v => v = .int piece.index
  | .callScript script argc, v | .startScript script argc, v =>
    HoldsInvocation reader script argc v
  | .pushConstant value, v => v = .int value.toInt
  | .pushLocal slot, v | .popLocal slot, v | .pushStatic slot, v | .popStatic slot, v =>
    v = .int slot.toNat
  | .binary _, v | .unary _, v | .attachUnit, v | .detachUnit, v | .sleep, v
  | .returnFromScript, v | .sendSignal, v | .setSignalMask, v | .createLocal, v | .popStack, v
  | .getUnitValue, v | .setUnitValue, v | .randomNumber, v => v = .null

def WrittenAs (reader : Json.Reader) (i : Instr) (v : Json) : Prop :=
  ∃ operands, Json.Names reader v i.name operands ∧ i.HasOperands reader operands

theorem pieceId?_eq_some_iff {piece : PieceId} :
    pieceId? v = some piece ↔ v = .int piece.index := by
  obtain ⟨word⟩ := piece
  simp [pieceId?, PieceId.index, Json.uint16?_eq_some_iff]

theorem scriptId?_eq_some_iff {script : ScriptId} :
    scriptId? v = some script ↔ v = .int script.index := by
  obtain ⟨word⟩ := script
  simp [scriptId?, ScriptId.index, Json.uint16?_eq_some_iff]

theorem withAxis?_eq_some_iff {make : PieceId → Axis → Instr} :
    withAxis? reader make v = some i ↔
      ∃ p : PieceId × Axis, HoldsAxis reader p.1 p.2 v ∧ make p.1 p.2 = i := by
  simp only [withAxis?, Option.bind_eq_bind, Option.pure_def, Option.bind_eq_some_iff,
    Json.record?_eq_some_iff, Json.required_eq_some_iff, pieceId?_eq_some_iff,
    Axis.decode?_eq_some_iff, Option.some.injEq]
  constructor
  · rintro ⟨members, given, piece, ⟨_, held, rfl⟩, axis, ⟨a, held', named⟩, rfl⟩
    exact ⟨(piece, axis), ⟨members, a, given, held, held', named⟩, rfl⟩
  · rintro ⟨⟨piece, axis⟩, ⟨members, a, given, held, held', named⟩, rfl⟩
    exact ⟨members, given, piece, ⟨_, held, rfl⟩, axis, ⟨a, held', named⟩, rfl⟩

theorem withInvocation?_eq_some_iff {make : ScriptId → UInt8 → Instr} :
    withInvocation? reader make v = some i ↔
      ∃ p : ScriptId × UInt8, HoldsInvocation reader p.1 p.2 v ∧ make p.1 p.2 = i := by
  simp only [withInvocation?, Option.bind_eq_bind, Option.pure_def, Option.bind_eq_some_iff,
    Json.record?_eq_some_iff, Json.required_eq_some_iff, scriptId?_eq_some_iff,
    Json.uint8?_eq_some_iff, Option.some.injEq]
  constructor
  · rintro ⟨members, given, script, ⟨_, held, rfl⟩, argc, ⟨_, held', rfl⟩, rfl⟩
    exact ⟨(script, argc), ⟨members, given, held, held'⟩, rfl⟩
  · rintro ⟨⟨script, argc⟩, ⟨members, given, held, held'⟩, rfl⟩
    exact ⟨members, given, script, ⟨_, held, rfl⟩, argc, ⟨_, held', rfl⟩, rfl⟩

theorem hasOperands_null_iff : i.HasOperands reader .null ↔ i ∈ plain := by
  cases i with
  | binary op => cases op <;> simp [HasOperands, plain, BinaryOp.all]
  | unary op => cases op <;> simp [HasOperands, plain, UnaryOp.all]
  | _ => simp [HasOperands, HoldsAxis, HoldsInvocation, Operands, plain]

theorem ofName?_eq_some_iff (reader : Json.Reader) {name : String} :
    ofName? name = some i ↔ i.name = name ∧ i.HasOperands reader .null := by
  rw [hasOperands_null_iff]
  constructor
  · intro found
    have same := List.find?_some found
    exact ⟨by simpa using same, List.mem_of_find?_eq_some found⟩
  · rintro ⟨rfl, member⟩
    have own : ∀ i ∈ plain, ofName? i.name = some i := by decide
    exact own i member

theorem decodeOperands?_eq_some_iff {name : String} (present : v ≠ .null) :
    decodeOperands? reader name v = some i ↔ i.name = name ∧ i.HasOperands reader v := by
  constructor
  · intro h
    unfold decodeOperands? at h
    split at h
    all_goals
      simp only [withAxis?_eq_some_iff, withInvocation?_eq_some_iff, Option.map_eq_some_iff,
        Json.uint16?_eq_some_iff, Json.uint32?_eq_some_iff, Json.int32?_eq_some_iff,
        pieceId?_eq_some_iff, reduceCtorEq] at h
    all_goals
      obtain ⟨_, holds, rfl⟩ := h
      exact ⟨rfl, holds⟩
  · rintro ⟨rfl, holds⟩
    cases i with
    | jump => exact congrArg (Option.map jump) (Json.uint32?_eq_some_iff.mpr holds)
    | jumpIfZero => exact congrArg (Option.map jumpIfZero) (Json.uint32?_eq_some_iff.mpr holds)
    | animate animation piece axis =>
      cases animation <;> exact withAxis?_eq_some_iff.mpr ⟨(piece, axis), holds, rfl⟩
    | waitFor motion piece axis =>
      cases motion <;> exact withAxis?_eq_some_iff.mpr ⟨(piece, axis), holds, rfl⟩
    | burst kind =>
      cases kind <;> exact congrArg (Option.map _) (pieceId?_eq_some_iff.mpr holds)
    | setFlag flag on =>
      cases flag <;> cases on <;> exact congrArg (Option.map _) (pieceId?_eq_some_iff.mpr holds)
    | callScript script argc =>
      exact withInvocation?_eq_some_iff.mpr ⟨(script, argc), holds, rfl⟩
    | startScript script argc =>
      exact withInvocation?_eq_some_iff.mpr ⟨(script, argc), holds, rfl⟩
    | pushConstant => exact congrArg (Option.map pushConstant) (Json.int32?_eq_some_iff.mpr holds)
    | pushLocal => exact congrArg (Option.map pushLocal) (Json.uint16?_eq_some_iff.mpr holds)
    | popLocal => exact congrArg (Option.map popLocal) (Json.uint16?_eq_some_iff.mpr holds)
    | pushStatic => exact congrArg (Option.map pushStatic) (Json.uint16?_eq_some_iff.mpr holds)
    | popStatic => exact congrArg (Option.map popStatic) (Json.uint16?_eq_some_iff.mpr holds)
    | _ => exact absurd holds present

theorem decode?_eq_some_iff : decode? reader v = some i ↔ i.WrittenAs reader v := by
  simp only [WrittenAs, ← Json.alternative?_eq_some_iff]
  cases found : v.alternative? reader with
  | none => simp [decode?, found]
  | some alternative =>
    obtain ⟨name, operands⟩ := alternative
    have read : decode? reader v = some i ↔ i.name = name ∧ i.HasOperands reader operands := by
      by_cases bare : operands = .null
      · subst bare
        simp only [decode?, found, ofName?_eq_some_iff reader]
      · simp only [decode?, found, decodeOperands?_eq_some_iff bare]
    rw [read]
    constructor
    · rintro ⟨rfl, holds⟩
      exact ⟨operands, rfl, holds⟩
    · rintro ⟨_, same, holds⟩
      cases same
      exact ⟨rfl, holds⟩

example : decode? .text (.obj [("MoveObject", .arr [.int 0, .str "Y"])]) =
    some (animate .move ⟨0⟩ .y) := by
  rfl

example : decode? .only (.obj [("MoveObject", .arr [.int 0, .str "Y"])]) = none := by
  rfl

theorem operands_named {keys : List String} {members : List (String × Json)}
    (distinct : (members.map Prod.fst).Nodup) : Operands reader keys (.obj members) members :=
  .named (.of_nodup distinct keys)

theorem writtenAs_encode (reader : Json.Reader) (i : Instr) : i.WrittenAs reader i.encode := by
  cases i with
  | animate animation piece axis =>
    exact ⟨_, .only _ _, _, _, operands_named (by simp), rfl, rfl, .bare _⟩
  | waitFor motion piece axis =>
    exact ⟨_, .only _ _, _, _, operands_named (by simp), rfl, rfl, .bare _⟩
  | callScript script argc => exact ⟨_, .only _ _, _, operands_named (by simp), rfl, rfl⟩
  | startScript script argc => exact ⟨_, .only _ _, _, operands_named (by simp), rfl, rfl⟩
  | jump | jumpIfZero | burst | setFlag | pushConstant | pushLocal | popLocal | pushStatic
  | popStatic => exact ⟨_, .only _ _, rfl⟩
  | _ => exact ⟨_, .bare _, rfl⟩

inductive OperandEdit : Json → Json → Prop
  | member {i : Instr} {operands members members' : List (String × Json)}
    (shape : i.operands? = some (.obj operands))
    (edit : Json.MemberEdit (operands.map Prod.fst) [] members members') :
    OperandEdit (.obj [(i.name, .obj members)]) (.obj [(i.name, .obj members')])

section Edits

variable {members members' : List (String × Json)}

theorem withAxis?_edit {make : PieceId → Axis → Instr}
    (edit : Json.MemberEdit axisFields [] members members')
    (read : withAxis? reader make (.obj members) = some i) :
    withAxis? reader make (.obj members') = some i := by
  obtain ⟨_, ⟨_, _, ⟨single⟩, -⟩, -⟩ := withAxis?_eq_some_iff.mp read
  rw [← read]
  simp only [withAxis?, Json.record?_obj single, Json.record?_obj (edit.single single),
    Option.bind_eq_bind, Option.bind_some]
  rw [edit.required_eq single "piece" (by decide) (by simp)]
  rw [edit.required_eq single "axis" (by decide) (by simp)]

theorem withInvocation?_edit {make : ScriptId → UInt8 → Instr}
    (edit : Json.MemberEdit invocationFields [] members members')
    (read : withInvocation? reader make (.obj members) = some i) :
    withInvocation? reader make (.obj members') = some i := by
  obtain ⟨_, ⟨_, ⟨single⟩, -⟩, -⟩ := withInvocation?_eq_some_iff.mp read
  rw [← read]
  simp only [withInvocation?, Json.record?_obj single, Json.record?_obj (edit.single single),
    Option.bind_eq_bind, Option.bind_some]
  rw [edit.required_eq single "script" (by decide) (by simp)]
  rw [edit.required_eq single "argc" (by decide) (by simp)]

end Edits

theorem OperandEdit.unnoticed (reader : Json.Reader) :
    Json.Unnoticed (decode? reader) OperandEdit := by
  rintro _ _ ⟨shape, edit⟩ i read
  rename_i named operands members members'
  have below : ∀ members, decode? reader (.obj [(named.name, .obj members)]) =
      decodeOperands? reader named.name (.obj members) := fun _ => rfl
  rw [below] at read ⊢
  cases named with
  | animate animation =>
    cases shape
    cases animation <;> exact withAxis?_edit edit read
  | waitFor motion =>
    cases shape
    cases motion <;> exact withAxis?_edit edit read
  | callScript | startScript =>
    cases shape
    exact withInvocation?_edit edit read
  | _ => cases shape

end Instr

end UnitScript
