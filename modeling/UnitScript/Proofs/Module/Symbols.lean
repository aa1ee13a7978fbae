import Std.Data.TreeMap.Lemmas
import UnitScript.Proofs.Module.Lookup

namespace UnitScript

abbrev SymbolTable := Std.TreeMap String UInt16

/-- The names of a table are those of a list, each with its place as the id. -/
def Inverts (table : SymbolTable) (names : List String) : Prop :=
  ∀ n (w : UInt16), table[n]? = some w ↔ names[w.toNat]? = some n

namespace Inverts

variable {table : SymbolTable} {names : List String} {n : String}

theorem empty : Inverts ∅ [] := by
  intro n w
  simp

theorem insert (h : Inverts table names) (few : names.length < 65536) (new : table[n]? = none) :
    Inverts (table.insert n (UInt16.ofNat names.length)) (names ++ [n]) := by
  intro n' w
  have next : UInt16.ofNat names.length = w ↔ w.toNat = names.length := by
    rw [← UInt16.toNat_inj, UInt16.toNat_ofNat_of_lt' few, eq_comm]
  have before := h n' w
  rw [Std.TreeMap.getElem?_insert, List.getElem?_append]
  by_cases same : n = n'
  · subst same
    rw [new] at before
    simp only [Std.ReflCmp.compare_self, if_true, Option.some_inj, next]
    split
    · next inside => simp [← before, Nat.ne_of_lt inside]
    · next outside =>
      rw [List.getElem?_singleton]
      grind
  · simp only [Std.LawfulEqCmp.compare_eq_iff_eq, same, if_false, before]
    split
    · rfl
    · next outside =>
      rw [List.getElem?_eq_none (Nat.le_of_not_lt outside)]
      grind

end Inverts

namespace ModuleDefinition

/-- Go through a list of items with their indices as `firstFailure` does, and enter the names into a
table. -/
def tabulate {α : Type} (name : α → String) (check : Nat → Bool → α → Option ModuleError) :
    Nat → SymbolTable → List α → Except ModuleError SymbolTable
  | _, table, [] => .ok table
  | i, table, a :: rest =>
    match check i (table.contains (name a)) a with
    | some error => .error error
    | none => tabulate name check (i + 1) (table.insert (name a) (UInt16.ofNat i)) rest

def pieceTable (d : ModuleDefinition) : Except ModuleError SymbolTable :=
  tabulate id d.pieceFailure? 0 ∅ d.pieces.toList

def scriptTable (d : ModuleDefinition) : Except ModuleError SymbolTable :=
  tabulate EntryPoint.name d.scriptFailure? 0 ∅ d.scripts.toList

variable {α : Type} {name : α → String} {check : Nat → Bool → α → Option ModuleError}

theorem tabulate_eq_error_iff {i : Nat} {seen : Std.TreeSet String} {table : SymbolTable}
    {items : List α} (same : ∀ n, table.contains n = seen.contains n) {e : ModuleError} :
    tabulate name check i table items = .error e ↔
      firstFailure name check i seen items = some e := by
  induction items generalizing i seen table with
  | nil => simp [tabulate, firstFailure]
  | cons a rest ih =>
    rw [tabulate, firstFailure, same]
    cases check i (seen.contains (name a)) a with
    | some error => simp
    | none =>
      apply ih
      intro n
      rw [Std.TreeMap.contains_insert, Std.TreeSet.contains_insert, same]

theorem inverts_tabulate (once : ∀ i a, check i true a ≠ none)
    (few : ∀ i repeated a, check i repeated a = none → i < 65536) {table table' : SymbolTable}
    (done items : List α) (inverts : Inverts table (done.map name))
    (tabulated : tabulate name check done.length table items = .ok table') :
    Inverts table' ((done ++ items).map name) := by
  induction items generalizing done table with
  | nil =>
    cases tabulated
    simpa using inverts
  | cons a rest ih =>
    rw [tabulate] at tabulated
    split at tabulated
    · cases tabulated
    · next passed =>
      have new : table[name a]? = none := by
        apply Std.TreeMap.getElem?_eq_none
        rw [Std.TreeMap.mem_iff_contains]
        intro repeated
        exact once _ _ (repeated ▸ passed)
      have extended := inverts.insert (by simpa using few _ _ _ passed) new
      rw [List.length_map] at extended
      have later := ih (done ++ [a]) (by simpa using extended) (by simpa using tabulated)
      simpa using later

theorem exists_tabulate (once : ∀ i a, check i true a ≠ none)
    (few : ∀ i repeated a, check i repeated a = none → i < 65536) {items : List α}
    (passed : firstFailure name check 0 ∅ items = none) :
    ∃ table, tabulate name check 0 ∅ items = .ok table ∧ Inverts table (items.map name) := by
  cases tabulated : tabulate name check 0 ∅ items with
  | error e =>
    have failed : firstFailure name check 0 ∅ items = some e :=
      (tabulate_eq_error_iff (by simp)).mp tabulated
    rw [passed] at failed
    cases failed
  | ok table => exact ⟨table, rfl, inverts_tabulate once few [] items .empty tabulated⟩

variable {d : ModuleDefinition}

theorem exists_pieceTable (h : d.failure? = none) :
    ∃ table, d.pieceTable = .ok table ∧ Inverts table d.pieces.toList := by
  have names : d.pieces.toList.map id = d.pieces.toList := List.map_id _
  rw [← names]
  apply exists_tabulate ?_ ?_ (failure?_eq_none_iff.mp h).1
  · intro i a
    unfold pieceFailure?
    split <;> simp
  · intro i repeated a passed
    unfold pieceFailure? at passed
    split at passed
    · cases passed
    · next inside => exact Nat.lt_of_not_le inside

theorem exists_scriptTable (h : d.failure? = none) :
    ∃ table, d.scriptTable = .ok table ∧ Inverts table (d.scripts.toList.map EntryPoint.name) := by
  apply exists_tabulate ?_ ?_ (failure?_eq_none_iff.mp h).2.1
  · intro i a
    unfold scriptFailure?
    split <;> simp
  · intro i repeated a passed
    unfold scriptFailure? at passed
    split at passed
    · cases passed
    · next inside => exact Nat.lt_of_not_le inside

end ModuleDefinition

namespace Module

variable {m : Module} {name : String}

structure Symbols (m : Module) (d : ModuleDefinition) : Prop where
  definition : m.definition = d
  rebuilt : ofDefinition m.definition = .ok m
  piece_iff : ∀ name id, m.pieceIndex name = .ok id ↔ m.pieceName? id = some name
  script_iff : ∀ name id,
    m.entryPoint name = .ok id ↔ ∃ entry, m.script? id = some entry ∧ entry.name = name
  inside : ∀ name id, m.entryPoint name = .ok id → id.index < m.definition.scripts.size
  offset : ∀ id entry, m.script? id = some entry →
    m.entryPointOffset entry.name = .ok entry.offset ∧ m.hasEntryPoint entry.name = true
  no_piece : ∀ name, name ∉ d.pieces → m.pieceIndex name = .error (.unknownPiece name)
  no_script : ∀ name, name ∉ d.scripts.map EntryPoint.name →
    m.entryPoint name = .error (.unknownEntryPoint name) ∧
      m.entryPointOffset name = .error (.unknownEntryPoint name) ∧ m.hasEntryPoint name = false
  pieceTable : ∃ table, d.pieceTable = .ok table ∧ ∀ name, m.pieceIndex name =
    match table[name]? with
    | some w => .ok ⟨w⟩
    | none => .error (.unknownPiece name)
  scriptTable : ∃ table, d.scriptTable = .ok table ∧ ∀ name, m.entryPoint name =
    match table[name]? with
    | some w => .ok ⟨w⟩
    | none => .error (.unknownEntryPoint name)

theorem pieceIndex_eq_error (missing : ∀ id, m.pieceName? id ≠ some name) :
    m.pieceIndex name = .error (.unknownPiece name) := by
  rw [pieceIndex]
  split
  · next id found => exact absurd (pieceNamed?_eq_some_iff.mp found) (missing id)
  · rfl

theorem scriptNamed?_eq_none
    (missing : ∀ id entry, m.script? id = some entry → entry.name ≠ name) :
    m.scriptNamed? name = none := by
  cases found : m.scriptNamed? name with
  | none => rfl
  | some id =>
    obtain ⟨entry, declared, same⟩ := scriptNamed?_eq_some_iff.mp found
    exact absurd same (missing id entry declared)

theorem pieceIndex_eq_lookup {table : SymbolTable}
    (inverts : Inverts table m.definition.pieces.toList) (name : String) :
    m.pieceIndex name =
      match table[name]? with
      | some w => .ok ⟨w⟩
      | none => .error (.unknownPiece name) := by
  have inverse (w : UInt16) : table[name]? = some w ↔ m.pieceName? ⟨w⟩ = some name := by
    rw [inverts, Array.getElem?_toList]
    rfl
  split
  · next w found => exact pieceIndex_eq_ok_iff.mpr ((inverse w).mp found)
  · next unknown =>
    apply pieceIndex_eq_error
    intro id found
    rw [(inverse id.word).mpr found] at unknown
    cases unknown

theorem entryPoint_eq_lookup {table : SymbolTable}
    (inverts : Inverts table (m.definition.scripts.toList.map EntryPoint.name)) (name : String) :
    m.entryPoint name =
      match table[name]? with
      | some w => .ok ⟨w⟩
      | none => .error (.unknownEntryPoint name) := by
  have inverse (w : UInt16) :
      table[name]? = some w ↔ ∃ entry, m.script? ⟨w⟩ = some entry ∧ entry.name = name := by
    rw [inverts, List.getElem?_map, Option.map_eq_some_iff, Array.getElem?_toList]
    rfl
  split
  · next w found => exact entryPoint_eq_ok_iff.mpr ((inverse w).mp found)
  · next unknown =>
    rw [entryPoint, scriptNamed?_eq_none]
    intro id entry declared same
    rw [(inverse id.word).mpr ⟨entry, declared, same⟩] at unknown
    cases unknown

theorem entryPointOffset_of_script? {id : ScriptId} {entry : EntryPoint}
    (declared : m.script? id = some entry) :
    m.entryPointOffset entry.name = .ok entry.offset := by
  have named := entryPoint_of_script? declared
  unfold entryPointOffset
  split
  · next id' found =>
    cases named.symm.trans found
    obtain ⟨inside, same⟩ := Array.getElem?_eq_some_iff.mp declared
    exact congrArg (fun e => Except.ok e.offset) same
  · next error missing =>
    cases named.symm.trans missing

theorem entryPointOffset_of_error {error : ModuleError}
    (missing : m.entryPoint name = .error error) : m.entryPointOffset name = .error error := by
  unfold entryPointOffset
  split
  · next id found => cases missing.symm.trans found
  · next error' failed =>
    cases missing.symm.trans failed
    rfl

theorem ofDefinition_definition (m : Module) : ofDefinition m.definition = .ok m := by
  obtain ⟨m', built⟩ := exists_ofDefinition_eq_ok_iff.mpr m.checked
  have same := ofDefinition_eq_ok built
  cases m
  cases m'
  cases same
  exact built

/-- Names and ids lead to each other in every module, and a module gives back the description that
it was built from. -/
theorem symbols_faithful {d : ModuleDefinition} (built : ofDefinition d = .ok m) :
    m.Symbols d := by
  obtain rfl := ofDefinition_eq_ok built
  obtain ⟨pieces, pieceTable, inverts⟩ := ModuleDefinition.exists_pieceTable m.checked
  obtain ⟨scripts, scriptTable, inverts'⟩ := ModuleDefinition.exists_scriptTable m.checked
  refine
    { definition := rfl
      rebuilt := built
      piece_iff := fun name id => pieceIndex_eq_ok_iff
      script_iff := fun name id => entryPoint_eq_ok_iff
      inside := fun name id => index_lt_of_entryPoint
      offset := ?_
      no_piece := ?_
      no_script := ?_
      pieceTable := ⟨pieces, pieceTable, pieceIndex_eq_lookup inverts⟩
      scriptTable := ⟨scripts, scriptTable, entryPoint_eq_lookup inverts'⟩ }
  · intro id entry declared
    refine ⟨entryPointOffset_of_script? declared, ?_⟩
    rw [hasEntryPoint, scriptNamed?_eq_some_iff.mpr ⟨entry, declared, rfl⟩, Option.isSome_some]
  · intro name missing
    apply pieceIndex_eq_error
    intro id found
    exact missing (Array.mem_of_getElem? found)
  · intro name missing
    have absent (entry) (member : entry ∈ m.definition.scripts) : entry.name ≠ name :=
      fun same => missing (Array.mem_map.mpr ⟨entry, member, same⟩)
    have unnamed : m.scriptNamed? name = none :=
      scriptNamed?_eq_none fun id entry declared => absent entry (Array.mem_of_getElem? declared)
    have unknown : m.entryPoint name = .error (.unknownEntryPoint name) := by
      rw [entryPoint, unnamed]
    refine ⟨unknown, entryPointOffset_of_error unknown, ?_⟩
    rw [hasEntryPoint, unnamed, Option.isSome_none]

def turret : Module where
  definition :=
    { pieces := #["base", "barrel"]
      scripts := #[{ name := "Create", offset := 0 }, { name := "Fire", offset := 2, locals := 1 }]
      code := #[.callScript ⟨1⟩ 0, .returnFromScript, .burst .explosion ⟨1⟩, .returnFromScript] }
  checked := by decide +kernel

theorem turret_symbols :
    ofDefinition turret.definition = .ok turret ∧ turret.pieceIndex "barrel" = .ok ⟨1⟩ ∧
      turret.entryPoint "Fire" = .ok ⟨1⟩ ∧ turret.entryPointOffset "Fire" = .ok 2 ∧
      turret.pieceIndex "Fire" = .error (.unknownPiece "Fire") := by
  have built := ofDefinition_definition turret
  have symbols := symbols_faithful built
  refine ⟨built, ?_, ?_, ?_, ?_⟩
  · exact (symbols.piece_iff _ _).mpr rfl
  · exact (symbols.script_iff _ _).mpr ⟨_, rfl, rfl⟩
  · exact (symbols.offset ⟨1⟩ _ rfl).1
  · exact symbols.no_piece _ (by decide +kernel)

end Module

end UnitScript
