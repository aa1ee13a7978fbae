import UnitScript.Proofs.Module.Validation

namespace UnitScript

theorem findIdx?_ofNat_eq_some_iff {α : Type} {name : α → String} {items : Array α}
    (distinct : (items.toList.map name).Nodup) (few : items.size ≤ 65536) {n : String}
    {w : UInt16} :
    (items.findIdx? (name · = n)).map UInt16.ofNat = some w ↔
      ∃ a, items[w.toNat]? = some a ∧ name a = n := by
  rw [Option.map_eq_some_iff]
  constructor
  · rintro ⟨i, found, rfl⟩
    obtain ⟨inside, same, -⟩ := Array.findIdx?_eq_some_iff_getElem.mp found
    rw [UInt16.toNat_ofNat_of_lt' (Nat.lt_of_lt_of_le inside few)]
    exact ⟨_, Array.getElem?_eq_getElem inside, of_decide_eq_true same⟩
  · rintro ⟨a, found, rfl⟩
    obtain ⟨inside, rfl⟩ := Array.getElem?_eq_some_iff.mp found
    refine ⟨w.toNat, ?_, UInt16.ofNat_toNat⟩
    rw [Array.findIdx?_eq_some_iff_getElem]
    refine ⟨inside, decide_eq_true rfl, ?_⟩
    intro j before same
    have apart := List.pairwise_iff_getElem.mp (List.pairwise_map.mp distinct)
      j w.toNat (by simpa using Nat.lt_trans before inside) (by simpa using inside) before
    exact apart (by simpa using same)

theorem mem_iff_exists_word {α : Type} {items : Array α} (few : items.size ≤ 65536) {a : α} :
    a ∈ items ↔ ∃ w : UInt16, items[w.toNat]? = some a := by
  rw [Array.mem_iff_getElem?]
  constructor
  · rintro ⟨i, found⟩
    have inside := (Array.getElem?_eq_some_iff.mp found).1
    refine ⟨UInt16.ofNat i, ?_⟩
    rwa [UInt16.toNat_ofNat_of_lt' (Nat.lt_of_lt_of_le inside few)]
  · rintro ⟨w, found⟩
    exact ⟨w.toNat, found⟩

namespace Module

variable {m : Module} {name : String}

theorem valid (m : Module) : m.definition.Valid :=
  ModuleDefinition.failure?_eq_none_iff_valid.mp m.checked

theorem scriptNamed?_eq_some_iff {script : ScriptId} :
    m.scriptNamed? name = some script ↔
      ∃ entry, m.script? script = some entry ∧ entry.name = name := by
  rw [script?, ScriptId.index, ← findIdx?_ofNat_eq_some_iff m.valid.scripts_distinct
    m.valid.scripts_few, scriptNamed?]
  cases m.definition.scripts.findIdx? (·.name = name) <;> cases script <;> simp

theorem pieceNamed?_eq_some_iff {piece : PieceId} :
    m.pieceNamed? name = some piece ↔ m.pieceName? piece = some name := by
  have distinct : (m.definition.pieces.toList.map id).Nodup := by
    rw [List.map_id]
    exact m.valid.pieces_distinct
  have found := findIdx?_ofNat_eq_some_iff distinct m.valid.pieces_few (n := name) (w := piece.word)
  simp only [id_eq, exists_eq_right] at found
  rw [pieceName?, PieceId.index, ← found, pieceNamed?]
  cases m.definition.pieces.findIdx? (· = name) <;> cases piece <;> simp

theorem entryPoint_eq_ok_iff {script : ScriptId} :
    m.entryPoint name = .ok script ↔
      ∃ entry, m.script? script = some entry ∧ entry.name = name := by
  rw [← scriptNamed?_eq_some_iff, entryPoint]
  split <;> simp_all

theorem pieceIndex_eq_ok_iff {piece : PieceId} :
    m.pieceIndex name = .ok piece ↔ m.pieceName? piece = some name := by
  rw [← pieceNamed?_eq_some_iff, pieceIndex]
  split <;> simp_all

theorem mem_scripts_iff {entry : EntryPoint} :
    entry ∈ m.definition.scripts ↔ ∃ script, m.script? script = some entry := by
  rw [mem_iff_exists_word m.valid.scripts_few]
  exact ⟨fun ⟨w, found⟩ => ⟨⟨w⟩, found⟩, fun ⟨script, found⟩ => ⟨script.word, found⟩⟩

theorem mem_pieces_iff : name ∈ m.definition.pieces ↔ ∃ piece, m.pieceName? piece = some name := by
  rw [mem_iff_exists_word m.valid.pieces_few]
  exact ⟨fun ⟨w, found⟩ => ⟨⟨w⟩, found⟩, fun ⟨piece, found⟩ => ⟨piece.word, found⟩⟩

theorem entryPoint_eq_error_iff {error : ModuleError} :
    m.entryPoint name = .error error ↔
      (∀ entry ∈ m.definition.scripts, entry.name ≠ name) ∧ error = .unknownEntryPoint name := by
  rw [entryPoint]
  split
  · next script named =>
    obtain ⟨entry, declared, same⟩ := scriptNamed?_eq_some_iff.mp named
    have member := mem_scripts_iff.mpr ⟨script, declared⟩
    exact iff_of_false nofun fun missing => missing.1 entry member same
  · next unnamed =>
    rw [Except.error.injEq, eq_comm, and_iff_right]
    intro entry member same
    obtain ⟨script, declared⟩ := mem_scripts_iff.mp member
    rw [scriptNamed?_eq_some_iff.mpr ⟨entry, declared, same⟩] at unnamed
    cases unnamed

theorem pieceIndex_eq_error_iff {error : ModuleError} :
    m.pieceIndex name = .error error ↔
      name ∉ m.definition.pieces ∧ error = .unknownPiece name := by
  rw [pieceIndex, mem_pieces_iff]
  split
  · next piece named =>
    have declared := pieceNamed?_eq_some_iff.mp named
    exact iff_of_false nofun fun missing => missing.1 ⟨piece, declared⟩
  · next unnamed =>
    rw [Except.error.injEq, eq_comm, and_iff_right]
    rintro ⟨piece, declared⟩
    rw [pieceNamed?_eq_some_iff.mpr declared] at unnamed
    cases unnamed

theorem entryPoint_of_script? {script : ScriptId} {entry : EntryPoint}
    (declared : m.script? script = some entry) : m.entryPoint entry.name = .ok script :=
  entryPoint_eq_ok_iff.mpr ⟨entry, declared, rfl⟩

end Module

end UnitScript
