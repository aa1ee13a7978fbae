import Mathlib.Logic.Relation
import UnitScript.Module.Codec
import UnitScript.Proofs.Instr.Codec

namespace UnitScript

structure EntryPoint.HeldBy (e : EntryPoint) (members : List (String × Json)) : Prop where
  name : members.lookup "name" = some (.str e.name)
  offset : members.lookup "offset" = some (.int e.offset.toNat)
  params : members.lookup "params" = some (.int e.params.toNat) ∨
    members.lookup "params" = none ∧ e.params = 0
  locals : members.lookup "locals" = some (.int e.locals.toNat) ∨
    members.lookup "locals" = none ∧ e.locals = 0

namespace EntryPoint

variable {reader : Json.Reader} {e : EntryPoint} {v : Json}

def DescribedBy (reader : Json.Reader) (e : EntryPoint) (v : Json) : Prop :=
  ∃ members, Json.IsRecord true reader.surplus fieldNames v members ∧ e.HeldBy members

theorem decode?_eq_some_iff : decode? reader v = some e ↔ e.DescribedBy reader v := by
  simp only [decode?, DescribedBy, Option.bind_eq_bind, Option.pure_def, Option.bind_eq_some_iff,
    Json.record?_eq_some_iff, Json.required_eq_some_iff, Json.optional_eq_some_iff,
    Json.str?_eq_some_iff, Json.uint16?_eq_some_iff, Json.uint32?_eq_some_iff,
    exists_eq_right, Option.some.injEq]
  constructor
  · rintro ⟨members, given, name, hn, offset, ho, params, hp, locals, hl, rfl⟩
    exact ⟨members, given, hn, ho, hp, hl⟩
  · rintro ⟨members, given, held⟩
    exact ⟨members, given, _, held.name, _, held.offset, _, held.params, _, held.locals, rfl⟩

example : decode? .text (.arr [.str "Main", .int 7]) = some { name := "Main", offset := 7 } := by
  decide

theorem describedBy_encode (reader : Json.Reader) (e : EntryPoint) :
    e.DescribedBy reader e.encode :=
  ⟨_, .named (.of_nodup (by simp) _), rfl, rfl, .inl rfl, .inl rfl⟩

inductive Edit : Json → Json → Prop
  | member {members members' : List (String × Json)}
    (edit : Json.MemberEdit fieldNames [("params", .int 0), ("locals", .int 0)] members members') :
    Edit (.obj members) (.obj members')

theorem Edit.unnoticed (reader : Json.Reader) : Json.Unnoticed (decode? reader) Edit := by
  rintro _ _ ⟨edit⟩ e read
  obtain ⟨_, ⟨single⟩, -⟩ := decode?_eq_some_iff.mp read
  rw [← read]
  simp only [decode?, Json.record?_obj single, Json.record?_obj (edit.single single),
    Option.bind_eq_bind, Option.bind_some]
  rw [edit.required_eq single "name" (by decide) (by simp)]
  rw [edit.required_eq single "offset" (by decide) (by simp)]
  rw [edit.optional_eq single "params" (by decide) (by simp [Json.uint16?_eq_some_iff])]
  rw [edit.optional_eq single "locals" (by decide) (by simp [Json.uint16?_eq_some_iff])]

end EntryPoint

namespace ModuleDefinition

structure HeldBy (reader : Json.Reader) (d : ModuleDefinition) (members : List (String × Json)) :
    Prop where
  pieces : members.lookup "pieces" = some (.arr (d.pieces.toList.map .str)) ∨
    members.lookup "pieces" = none ∧ d.pieces = #[]
  statics : members.lookup "statics" = some (.int d.statics.toNat) ∨
    members.lookup "statics" = none ∧ d.statics = 0
  scripts : ∃ items, members.lookup "scripts" = some (.arr items) ∧
    List.Forall₂ (EntryPoint.DescribedBy reader) d.scripts.toList items
  code : ∃ items, members.lookup "code" = some (.arr items) ∧
    List.Forall₂ (Instr.WrittenAs reader) d.code.toList items

def DescribedBy (reader : Json.Reader) (d : ModuleDefinition) (v : Json) : Prop :=
  ∃ members, Json.IsRecord true reader.surplus fieldNames v members ∧ d.HeldBy reader members

variable {reader : Json.Reader} {d : ModuleDefinition} {v v' : Json}

theorem list?_str?_eq_some_iff {names : List String} :
    Json.list? Json.str? v = some names ↔ v = .arr (names.map .str) := by
  simp only [Json.list?_eq_some_iff, Json.str?_eq_some_iff]
  have same : ∀ items, List.Forall₂ (fun name item => item = Json.str name) names items ↔
      items = names.map .str := by
    intro items
    induction names generalizing items with
    | nil => simp
    | cons name names ih => simp [List.forall₂_cons_left_iff, ih]
  simp [same]

theorem decode?_eq_some_iff : decode? reader v = some d ↔ d.DescribedBy reader v := by
  simp only [decode?, DescribedBy, Option.bind_eq_bind, Option.pure_def, Option.bind_eq_some_iff,
    Json.record?_eq_some_iff, Json.required_eq_some_iff, Json.optional_eq_some_iff,
    list?_str?_eq_some_iff, Json.uint16?_eq_some_iff, exists_eq_right, Option.some.injEq]
  simp only [Json.list?_eq_some_iff, EntryPoint.decode?_eq_some_iff, Instr.decode?_eq_some_iff]
  constructor
  · rintro ⟨members, given, pieces, hp, statics, hs, scripts, ⟨_, held, items, rfl, entries⟩, code,
      ⟨_, held', items', rfl, instrs⟩, rfl⟩
    have hp := hp.imp_right (And.imp_right (congrArg List.toArray))
    exact ⟨members, given, hp, hs, ⟨items, held, entries⟩, ⟨items', held', instrs⟩⟩
  · rintro ⟨members, given, hp, hs, ⟨items, held, entries⟩, ⟨items', held', instrs⟩⟩
    have hp := hp.imp_right (And.imp_right (congrArg Array.toList))
    exact ⟨members, given, d.pieces.toList, hp, d.statics, hs, d.scripts.toList,
      ⟨_, held, items, rfl, entries⟩, d.code.toList, ⟨_, held', items', rfl, instrs⟩, rfl⟩

theorem describedBy_encode (reader : Json.Reader) (d : ModuleDefinition) :
    d.DescribedBy reader d.encode := by
  refine ⟨_, .named (.of_nodup (by simp) _), .inl rfl, .inl rfl, ⟨_, rfl, ?_⟩, ⟨_, rfl, ?_⟩⟩
  · rw [List.forall₂_map_right_iff, List.forall₂_same]
    exact fun e _ => e.describedBy_encode reader
  · rw [List.forall₂_map_right_iff, List.forall₂_same]
    exact fun i _ => i.writtenAs_encode reader

theorem decode?_encode (reader : Json.Reader) (d : ModuleDefinition) :
    decode? reader d.encode = some d :=
  decode?_eq_some_iff.mpr (d.describedBy_encode reader)

theorem encode_injective : Function.Injective encode := by
  intro d d' same
  have read := decode?_encode .only d
  rw [same, decode?_encode] at read
  exact (Option.some.inj read).symm

/-- One change that a reader of descriptions does not notice: a default is left out, or a member
that nothing asks for is put in, of the description itself, of an entry point or of the operands of
an instruction. -/
inductive Edit : Json → Json → Prop
  | member {members members' : List (String × Json)}
    (edit : Json.MemberEdit fieldNames [("pieces", .arr []), ("statics", .int 0)]
      members members') :
    Edit (.obj members) (.obj members')
  | script {members members' : List (String × Json)}
    (edit : Json.ValueEdit "scripts" (Json.ItemEdit EntryPoint.Edit) members members') :
    Edit (.obj members) (.obj members')
  | operand {members members' : List (String × Json)}
    (edit : Json.ValueEdit "code" (Json.ItemEdit Instr.OperandEdit) members members') :
    Edit (.obj members) (.obj members')

theorem decode?_valueEdit {key : String} {edit : Json → Json → Prop}
    {members members' : List (String × Json)} (h : Json.ValueEdit key edit members members')
    (pieces : "pieces" ≠ key) (statics : "statics" ≠ key)
    (scripts : "scripts" = key → Json.Unnoticed (Json.list? (EntryPoint.decode? reader)) edit)
    (code : "code" = key → Json.Unnoticed (Json.list? (Instr.decode? reader)) edit)
    (read : decode? reader (.obj members) = some d) :
    decode? reader (.obj members') = some d := by
  obtain ⟨_, ⟨single⟩, -⟩ := decode?_eq_some_iff.mp read
  simp only [decode?, Json.record?_obj single, Json.record?_obj (h.single single),
    Option.bind_eq_bind, Option.bind_some, Option.bind_eq_some_iff] at read ⊢
  obtain ⟨names, hp, slots, hs, entries, he, instrs, hi, made⟩ := read
  rw [h.optional_eq "pieces" pieces, h.optional_eq "statics" statics]
  exact ⟨names, hp, slots, hs, entries, h.required_eq_some "scripts" scripts he, instrs,
    h.required_eq_some "code" code hi, made⟩

theorem Edit.unnoticed (reader : Json.Reader) : Json.Unnoticed (decode? reader) Edit := by
  intro v v' edit d read
  cases edit with
  | member edit =>
    obtain ⟨_, ⟨single⟩, -⟩ := decode?_eq_some_iff.mp read
    rw [← read]
    simp only [decode?, Json.record?_obj single, Json.record?_obj (edit.single single),
      Option.bind_eq_bind, Option.bind_some]
    rw [edit.optional_eq single "pieces" (by decide) (by simp [Json.list?_eq_some_iff])]
    rw [edit.optional_eq single "statics" (by decide) (by simp [Json.uint16?_eq_some_iff])]
    rw [edit.required_eq single "scripts" (by decide) (by simp)]
    rw [edit.required_eq single "code" (by decide) (by simp)]
  | script edit =>
    have scripts := (EntryPoint.Edit.unnoticed reader).items
    exact decode?_valueEdit edit (by decide) (by decide) (fun _ => scripts) (by simp) read
  | operand edit =>
    have code := (Instr.OperandEdit.unnoticed reader).items
    exact decode?_valueEdit edit (by decide) (by decide) (by simp) (fun _ => code) read

theorem Edits.unnoticed (reader : Json.Reader) :
    Json.Unnoticed (decode? reader) (Relation.ReflTransGen Edit) := by
  intro v v' edits d read
  induction edits with
  | refl => exact read
  | tail _ edit ih => exact Edit.unnoticed reader _ _ edit d ih

theorem decode?_eq_none_of_unwritten {members : List (String × Json)} {items : List Json}
    {item : Json} (given : Json.IsRecord true reader.surplus fieldNames v members)
    (code : members.lookup "code" = some (.arr items)) (member : item ∈ items)
    (unwritten : ∀ i : Instr, ¬i.WrittenAs reader item) : decode? reader v = none := by
  rw [Option.eq_none_iff_forall_ne_some]
  intro d read
  obtain ⟨_, given', held⟩ := decode?_eq_some_iff.mp read
  cases given.unique given'
  obtain ⟨items', code', instrs⟩ := held.code
  cases code.symm.trans code'
  obtain ⟨n, inside, rfl⟩ := List.getElem_of_mem member
  exact unwritten _ (instrs.get (instrs.length_eq ▸ inside) inside)

/-- The format of descriptions. What is written is read back, a description is told from any other,
defaults that are left out and members that nothing asks for change nothing, and what is read is
what stands there: each name is known, each operand has the shape and the number it is written
with, and one item that is no instruction spoils the whole. -/
theorem format_faithful (reader : Json.Reader) (d : ModuleDefinition) :
    decode? reader d.encode = some d ∧
      (∀ d' : ModuleDefinition, d'.encode = d.encode → d' = d) ∧
      (∀ v, Relation.ReflTransGen Edit d.encode v → decode? reader v = some d) ∧
      (∀ v, decode? reader v = some d ↔ d.DescribedBy reader v) ∧
      ∀ v members items item, Json.IsRecord true reader.surplus fieldNames v members →
        members.lookup "code" = some (.arr items) → item ∈ items →
        (∀ i : Instr, ¬i.WrittenAs reader item) → decode? reader v = none := by
  refine ⟨d.decode?_encode reader, fun d' same => encode_injective same, ?_, ?_, ?_⟩
  · intro v edits
    exact Edits.unnoticed reader _ v edits d (d.decode?_encode reader)
  · exact fun v => decode?_eq_some_iff
  · intro v members items item given code
    exact decode?_eq_none_of_unwritten given code

end ModuleDefinition

end UnitScript
