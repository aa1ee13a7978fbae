import UnitScript.Module.Basic

namespace UnitScript

namespace ModuleDefinition

theorem check_eq_none_of_firstFailure {α : Type} {name : α → String}
    {check : Nat → Bool → α → Option ModuleError} {i : Nat} {seen : Std.TreeSet String}
    {table : List α} (h : firstFailure name check i seen table = none) :
    ∀ a ∈ table, ∃ i repeated, check i repeated a = none := by
  induction table generalizing i seen with
  | nil =>
    intro a ha
    cases ha
  | cons b rest ih =>
    intro a ha
    simp only [firstFailure] at h
    split at h
    · cases h
    · next hb =>
      cases ha with
      | head => exact ⟨_, _, hb⟩
      | tail _ ha => exact ih h a ha

variable {d : ModuleDefinition}

theorem failure?_eq_none_iff :
    d.failure? = none ↔
      firstFailure id d.pieceFailure? 0 ∅ d.pieces.toList = none ∧
        firstFailure EntryPoint.name d.scriptFailure? 0 ∅ d.scripts.toList = none ∧
          ∀ e ∈ d.code.toList.zipIdx, d.instrFailure? e.2 e.1 = none := by
  simp only [failure?, Option.orElse_eq_orElse, Option.orElse_eq_or, Option.or_eq_none_iff,
    List.findSome?_eq_none_iff]

theorem instrFailure?_eq_none_iff {place : Nat} {i : Instr} :
    d.instrFailure? place i = none ↔
      d.jumpFailure? place i = none ∧ d.pieceReferenceFailure? place i = none ∧
        d.staticFailure? place i = none ∧ d.invocationFailure? place i = none := by
  simp only [instrFailure?, Option.orElse_eq_orElse, Option.orElse_eq_or, Option.or_eq_none_iff]

theorem instrFailure?_eq_none (h : d.failure? = none) {ip : Nat} {i : Instr}
    (fetched : d.code[ip]? = some i) : d.instrFailure? ip i = none := by
  apply (failure?_eq_none_iff.mp h).2.2 (i, ip)
  rw [List.mem_zipIdx_iff_getElem?]
  simpa using fetched

theorem scriptFailure?_eq_none (h : d.failure? = none) {entry : EntryPoint}
    (member : entry ∈ d.scripts) : ∃ i repeated, d.scriptFailure? i repeated entry = none :=
  check_eq_none_of_firstFailure (failure?_eq_none_iff.mp h).2.1 entry member.val

end ModuleDefinition

namespace Module

variable {m : Module} {ip : Nat} {i : Instr}

theorem lt_codeSize_of_instr? (fetched : m.instr? ip = some i) : ip < m.codeSize :=
  (Array.getElem?_eq_some_iff.mp fetched).1

theorem instr?_eq_none_iff : m.instr? ip = none ↔ m.codeSize ≤ ip :=
  Array.getElem?_eq_none_iff

theorem instrChecked (m : Module) (fetched : m.instr? ip = some i) :
    m.definition.instrFailure? ip i = none :=
  ModuleDefinition.instrFailure?_eq_none m.checked fetched

theorem jumpTarget_lt (fetched : m.instr? ip = some i) {target : Offset}
    (h : i.jumpTarget? = some target) : target.toNat < m.codeSize := by
  have checked := ModuleDefinition.instrFailure?_eq_none_iff.mp (m.instrChecked fetched)
  simpa [ModuleDefinition.jumpFailure?, h, codeSize] using checked.1

theorem piece_lt (fetched : m.instr? ip = some i) {piece : PieceId} (h : i.piece? = some piece) :
    piece.index < m.pieceCount := by
  have checked := ModuleDefinition.instrFailure?_eq_none_iff.mp (m.instrChecked fetched)
  simpa [ModuleDefinition.pieceReferenceFailure?, h, pieceCount] using checked.2.1

theorem staticSlot_lt (fetched : m.instr? ip = some i) {slot : UInt16}
    (h : i.staticSlot? = some slot) : slot.toNat < m.staticCount := by
  have checked := ModuleDefinition.instrFailure?_eq_none_iff.mp (m.instrChecked fetched)
  have inside : slot < m.definition.statics := by
    simpa [ModuleDefinition.staticFailure?, h] using checked.2.2.1
  exact UInt16.lt_iff_toNat_lt.mp inside

theorem script_of_invocation (fetched : m.instr? ip = some i) {script : ScriptId} {argc : UInt8}
    (h : i.invocation? = some (script, argc)) :
    ∃ entry, m.script? script = some entry ∧ argc.toNat ≤ entry.locals.toNat := by
  have checked := ModuleDefinition.instrFailure?_eq_none_iff.mp (m.instrChecked fetched)
  have invocation := checked.2.2.2
  simp only [ModuleDefinition.invocationFailure?, h, Option.bind_some] at invocation
  split at invocation
  · cases invocation
  · next entry found =>
    refine ⟨entry, found, ?_⟩
    have room : ¬entry.locals < argc.toUInt16 := by
      intro exceeds
      simp [exceeds] at invocation
    have room := UInt16.le_iff_toNat_le.mp (UInt16.not_lt.mp room)
    simpa using room

theorem scriptChecked {script : ScriptId} {entry : EntryPoint}
    (h : m.script? script = some entry) :
    ¬entry.locals < entry.params ∧ ¬m.codeSize ≤ entry.offset.toNat := by
  obtain ⟨i, repeated, checked⟩ :=
    ModuleDefinition.scriptFailure?_eq_none m.checked (Array.mem_of_getElem? h)
  unfold ModuleDefinition.scriptFailure? at checked
  split at checked
  · cases checked
  · split at checked
    · cases checked
    · split at checked
      · cases checked
      · next params =>
        refine ⟨params, ?_⟩
        intro outside
        change m.definition.code.size ≤ _ at outside
        simp [outside] at checked

theorem params_le_locals {script : ScriptId} {entry : EntryPoint}
    (h : m.script? script = some entry) : entry.params.toNat ≤ entry.locals.toNat :=
  UInt16.le_iff_toNat_le.mp (UInt16.not_lt.mp (scriptChecked h).1)

theorem offset_lt {script : ScriptId} {entry : EntryPoint}
    (h : m.script? script = some entry) : entry.offset.toNat < m.codeSize :=
  Nat.lt_of_not_le (scriptChecked h).2

end Module

end UnitScript
