import Mathlib.Data.List.Nodup
import Mathlib.Data.Set.Insert
import UnitScript.Proofs.Module.Reference

/-!
Which descriptions become modules, and what is reported of those that do not. The violations of a
description are listed by where they are and by which check they fail; a module is built exactly
when there is none, and else the first of them is the error.
-/

namespace UnitScript

inductive Reference
  | code (target : Offset)
  | piece (piece : PieceId)
  | static (slot : UInt16)
  | script (script : ScriptId) (argc : UInt8)

namespace Instr

def reference? : Instr → Option Reference
  | .jump target | .jumpIfZero target => some (.code target)
  | .animate _ piece _ | .waitFor _ piece _ | .burst _ piece | .setFlag _ _ piece =>
    some (.piece piece)
  | .pushStatic slot | .popStatic slot => some (.static slot)
  | .callScript script argc | .startScript script argc => some (.script script argc)
  | .binary _ | .unary _ | .attachUnit | .detachUnit | .sleep | .returnFromScript | .sendSignal
  | .setSignalMask | .createLocal | .pushConstant _ | .pushLocal _ | .popLocal _ | .popStack
  | .getUnitValue | .setUnitValue | .randomNumber => none

variable {i : Instr}

theorem jumpTarget?_eq_some_iff {target : Offset} :
    i.jumpTarget? = some target ↔ i.reference? = some (.code target) := by
  cases i <;> simp [jumpTarget?, reference?]

theorem piece?_eq_some_iff {piece : PieceId} :
    i.piece? = some piece ↔ i.reference? = some (.piece piece) := by
  cases i <;> simp [piece?, reference?]

theorem staticSlot?_eq_some_iff {slot : UInt16} :
    i.staticSlot? = some slot ↔ i.reference? = some (.static slot) := by
  cases i <;> simp [staticSlot?, reference?]

theorem invocation?_eq_some_iff {script : ScriptId} {argc : UInt8} :
    i.invocation? = some (script, argc) ↔ i.reference? = some (.script script argc) := by
  cases i <;> simp [invocation?, reference?]

end Instr

namespace ModuleDefinition

def Resolves (d : ModuleDefinition) : Reference → Prop
  | .code target => target.toNat < d.code.size
  | .piece piece => piece.index < d.pieces.size
  | .static slot => slot.toNat < d.statics.toNat
  | .script script argc =>
    ∃ entry, d.scripts[script.index]? = some entry ∧ argc.toNat ≤ entry.locals.toNat

structure Valid (d : ModuleDefinition) : Prop where
  pieces_distinct : d.pieces.toList.Nodup
  pieces_few : d.pieces.size ≤ 65536
  scripts_distinct : (d.scripts.toList.map EntryPoint.name).Nodup
  scripts_few : d.scripts.size ≤ 65536
  params_le_locals : ∀ entry ∈ d.scripts, entry.params.toNat ≤ entry.locals.toNat
  offset_lt : ∀ entry ∈ d.scripts, entry.offset.toNat < d.code.size
  resolves : ∀ i ∈ d.code, ∀ r, i.reference? = some r → d.Resolves r

inductive Part
  | pieces
  | scripts
  | code

def Part.rank : Part → Nat
  | .pieces => 0
  | .scripts => 1
  | .code => 2

structure Place where
  part : Part
  index : Nat
  check : Nat

def Place.Precedes (p q : Place) : Prop :=
  p.part.rank < q.part.rank ∨
    p.part = q.part ∧ (p.index < q.index ∨ p.index = q.index ∧ p.check < q.check)

theorem Place.Precedes.asymm {p q : Place} (h : p.Precedes q) : ¬q.Precedes p := by
  unfold Precedes at *
  grind

theorem Place.eq_of_not_precedes {p q : Place} (h : ¬p.Precedes q) (h' : ¬q.Precedes p) :
    p = q := by
  obtain ⟨part, i, check⟩ := p
  obtain ⟨part', i', check'⟩ := q
  have same : part = part' := by
    cases part <;> cases part' <;> simp_all [Precedes, Part.rank]
  subst same
  simp only [Precedes, Nat.lt_irrefl, true_and, false_or] at h h'
  simp only [Place.mk.injEq, true_and]
  omega

/-- Everything that is wrong with a description, with the error that tells of it. -/
inductive Violation (d : ModuleDefinition) : Place → ModuleError → Prop
  | tooManyPieces {i : Nat} (declared : i < d.pieces.size) (beyond : 65536 ≤ i) :
    Violation d ⟨.pieces, i, 0⟩ (.tooManyPieces d.pieces.size)
  | duplicatePiece {i j : Nat} {name : String} (declared : d.pieces[i]? = some name)
    (before : j < i) (same : d.pieces[j]? = some name) :
    Violation d ⟨.pieces, i, 1⟩ (.duplicatePiece name)
  | tooManyScripts {i : Nat} (declared : i < d.scripts.size) (beyond : 65536 ≤ i) :
    Violation d ⟨.scripts, i, 0⟩ (.tooManyScripts d.scripts.size)
  | duplicateEntryPoint {i j : Nat} {entry other : EntryPoint}
    (declared : d.scripts[i]? = some entry) (before : j < i)
    (earlier : d.scripts[j]? = some other) (same : other.name = entry.name) :
    Violation d ⟨.scripts, i, 1⟩ (.duplicateEntryPoint entry.name)
  | paramsExceedLocals {i : Nat} {entry : EntryPoint} (declared : d.scripts[i]? = some entry)
    (exceed : entry.locals.toNat < entry.params.toNat) :
    Violation d ⟨.scripts, i, 2⟩ (.paramsExceedLocals entry.name entry.params entry.locals)
  | entryOutOfRange {i : Nat} {entry : EntryPoint} (declared : d.scripts[i]? = some entry)
    (outside : d.code.size ≤ entry.offset.toNat) :
    Violation d ⟨.scripts, i, 3⟩ (.entryOutOfRange entry.name entry.offset)
  | jumpOutOfRange {place : Nat} {i : Instr} {target : Offset} (stands : d.code[place]? = some i)
    (refers : i.reference? = some (.code target)) (outside : d.code.size ≤ target.toNat) :
    Violation d ⟨.code, place, 0⟩ (.jumpOutOfRange place target)
  | pieceOutOfRange {place : Nat} {i : Instr} {piece : PieceId} (stands : d.code[place]? = some i)
    (refers : i.reference? = some (.piece piece)) (outside : d.pieces.size ≤ piece.index) :
    Violation d ⟨.code, place, 1⟩ (.pieceOutOfRange place piece)
  | staticOutOfRange {place : Nat} {i : Instr} {slot : UInt16} (stands : d.code[place]? = some i)
    (refers : i.reference? = some (.static slot)) (outside : d.statics.toNat ≤ slot.toNat) :
    Violation d ⟨.code, place, 2⟩ (.staticOutOfRange place slot d.statics)
  | scriptOutOfRange {place : Nat} {i : Instr} {script : ScriptId} {argc : UInt8}
    (stands : d.code[place]? = some i) (refers : i.reference? = some (.script script argc))
    (outside : d.scripts.size ≤ script.index) :
    Violation d ⟨.code, place, 3⟩ (.scriptOutOfRange place script)
  | tooManyArguments {place : Nat} {i : Instr} {script : ScriptId} {argc : UInt8}
    {entry : EntryPoint} (stands : d.code[place]? = some i)
    (refers : i.reference? = some (.script script argc))
    (declared : d.scripts[script.index]? = some entry)
    (exceed : entry.locals.toNat < argc.toNat) :
    Violation d ⟨.code, place, 4⟩ (.tooManyArguments place entry.name argc entry.locals)

/-- The error tells of a violation that no other one precedes. -/
def FirstViolation (d : ModuleDefinition) (e : ModuleError) : Prop :=
  ∃ p, d.Violation p e ∧ ∀ q e', d.Violation q e' → ¬q.Precedes p

variable {d : ModuleDefinition}

theorem not_duplicatePiece {p : Place} {name : String} (distinct : d.pieces.toList.Nodup) :
    ¬d.Violation p (.duplicatePiece name) := by
  intro violation
  cases violation with
  | duplicatePiece declared before same =>
    rw [← Array.getElem?_toList] at declared same
    have inside := (List.getElem?_eq_some_iff.mp declared).1
    exact List.nodup_iff_getElem?_ne_getElem?.mp distinct _ _ before inside
      (same.trans declared.symm)

theorem not_duplicateEntryPoint {p : Place} {name : String}
    (distinct : (d.scripts.toList.map EntryPoint.name).Nodup) :
    ¬d.Violation p (.duplicateEntryPoint name) := by
  intro violation
  cases violation with
  | duplicateEntryPoint declared before earlier same =>
    rw [← Array.getElem?_toList] at declared earlier
    have inside := (List.getElem?_eq_some_iff.mp declared).1
    apply List.nodup_iff_getElem?_ne_getElem?.mp distinct _ _ before (by simpa)
    simp [declared, earlier, same]

theorem Valid.no_violation (valid : d.Valid) (p : Place) (e : ModuleError) :
    ¬d.Violation p e := by
  intro violation
  cases violation with
  | tooManyPieces declared beyond =>
    have few := valid.pieces_few
    omega
  | duplicatePiece declared before same =>
    exact not_duplicatePiece valid.pieces_distinct (.duplicatePiece declared before same)
  | tooManyScripts declared beyond =>
    have few := valid.scripts_few
    omega
  | duplicateEntryPoint declared before earlier same =>
    exact not_duplicateEntryPoint valid.scripts_distinct
      (.duplicateEntryPoint declared before earlier same)
  | paramsExceedLocals declared exceed =>
    have fits := valid.params_le_locals _ (Array.mem_of_getElem? declared)
    omega
  | entryOutOfRange declared outside =>
    have inside := valid.offset_lt _ (Array.mem_of_getElem? declared)
    omega
  | jumpOutOfRange stands refers outside =>
    have inside := valid.resolves _ (Array.mem_of_getElem? stands) _ refers
    exact Nat.not_lt.mpr outside inside
  | pieceOutOfRange stands refers outside =>
    have inside := valid.resolves _ (Array.mem_of_getElem? stands) _ refers
    exact Nat.not_lt.mpr outside inside
  | staticOutOfRange stands refers outside =>
    have inside := valid.resolves _ (Array.mem_of_getElem? stands) _ refers
    exact Nat.not_lt.mpr outside inside
  | scriptOutOfRange stands refers outside =>
    obtain ⟨entry, declared, -⟩ := valid.resolves _ (Array.mem_of_getElem? stands) _ refers
    have inside := (Array.getElem?_eq_some_iff.mp declared).1
    omega
  | tooManyArguments stands refers declared exceed =>
    obtain ⟨entry, declared', fits⟩ := valid.resolves _ (Array.mem_of_getElem? stands) _ refers
    cases declared.symm.trans declared'
    omega

theorem resolves_of_no_violation (clear : ∀ p e, ¬d.Violation p e) {place : Nat} {i : Instr}
    (stands : d.code[place]? = some i) {r : Reference} (refers : i.reference? = some r) :
    d.Resolves r := by
  cases r with
  | code target => exact Nat.lt_of_not_le fun h => clear _ _ (.jumpOutOfRange stands refers h)
  | piece piece => exact Nat.lt_of_not_le fun h => clear _ _ (.pieceOutOfRange stands refers h)
  | static slot => exact Nat.lt_of_not_le fun h => clear _ _ (.staticOutOfRange stands refers h)
  | script script argc =>
    have inside : script.index < d.scripts.size :=
      Nat.lt_of_not_le fun h => clear _ _ (.scriptOutOfRange stands refers h)
    have declared := Array.getElem?_eq_getElem inside
    exact ⟨_, declared,
      Nat.le_of_not_lt fun h => clear _ _ (.tooManyArguments stands refers declared h)⟩

theorem valid_of_no_violation (clear : ∀ p e, ¬d.Violation p e) : d.Valid where
  pieces_distinct := by
    rw [List.nodup_iff_getElem?_ne_getElem?]
    intro j i before inside same
    have declared := List.getElem?_eq_getElem inside
    rw [declared, Array.getElem?_toList] at same
    rw [Array.getElem?_toList] at declared
    exact clear _ _ (.duplicatePiece declared before same)
  pieces_few := Nat.le_of_not_lt fun h => clear _ _ (.tooManyPieces h (Nat.le_refl _))
  scripts_distinct := by
    rw [List.nodup_iff_getElem?_ne_getElem?]
    intro j i before inside same
    rw [List.length_map, Array.length_toList] at inside
    have declared := Array.getElem?_eq_getElem inside
    have earlier := Array.getElem?_eq_getElem (Nat.lt_trans before inside)
    simp only [List.getElem?_map, Array.getElem?_toList, declared, earlier, Option.map_some,
      Option.some.injEq] at same
    exact clear _ _ (.duplicateEntryPoint declared before earlier same)
  scripts_few := Nat.le_of_not_lt fun h => clear _ _ (.tooManyScripts h (Nat.le_refl _))
  params_le_locals := by
    intro entry member
    obtain ⟨i, declared⟩ := Array.getElem?_of_mem member
    exact Nat.le_of_not_lt fun h => clear _ _ (.paramsExceedLocals declared h)
  offset_lt := by
    intro entry member
    obtain ⟨i, declared⟩ := Array.getElem?_of_mem member
    exact Nat.lt_of_not_le fun h => clear _ _ (.entryOutOfRange declared h)
  resolves := by
    intro i member r refers
    obtain ⟨place, stands⟩ := Array.getElem?_of_mem member
    exact resolves_of_no_violation clear stands refers

def size (d : ModuleDefinition) : Part → Nat
  | .pieces => d.pieces.size
  | .scripts => d.scripts.size
  | .code => d.code.size

theorem Violation.index_lt {p : Place} {e : ModuleError} (violation : d.Violation p e) :
    p.index < d.size p.part := by
  cases violation with
  | tooManyPieces declared | tooManyScripts declared => exact declared
  | duplicatePiece declared => exact (Array.getElem?_eq_some_iff.mp declared).1
  | duplicateEntryPoint declared | paramsExceedLocals declared | entryOutOfRange declared =>
    exact (Array.getElem?_eq_some_iff.mp declared).1
  | jumpOutOfRange stands | pieceOutOfRange stands | staticOutOfRange stands
  | scriptOutOfRange stands | tooManyArguments stands =>
    exact (Array.getElem?_eq_some_iff.mp stands).1

def FirstIn (d : ModuleDefinition) (places : Set Place) : Option ModuleError → Prop
  | none => ∀ p ∈ places, ∀ e, ¬d.Violation p e
  | some e => ∃ p ∈ places, d.Violation p e ∧
      ∀ q ∈ places, ∀ e', d.Violation q e' → ¬q.Precedes p

namespace FirstIn

variable {S T : Set Place} {found more : Option ModuleError} {p : Place}

theorem congr (same : ∀ p e, d.Violation p e → (p ∈ S ↔ p ∈ T)) (h : d.FirstIn S found) :
    d.FirstIn T found := by
  cases found with
  | none =>
    intro p inside e violation
    exact h p ((same p e violation).mpr inside) e violation
  | some e =>
    obtain ⟨p, inside, violation, first⟩ := h
    refine ⟨p, (same p e violation).mp inside, violation, ?_⟩
    intro q inside e' violation
    exact first q ((same q e' violation).mpr inside) e' violation

theorem none_of_empty : d.FirstIn ∅ none := fun _ absent => absent.elim

theorem single (here : ∀ e, d.Violation p e ↔ found = some e) : d.FirstIn {p} found := by
  cases found with
  | none =>
    rintro q rfl e violation
    cases (here e).mp violation
  | some e =>
    refine ⟨p, rfl, (here e).mpr rfl, ?_⟩
    rintro q rfl e' -
    simp [Place.Precedes]

theorem or (order : ∀ p ∈ S, ∀ q ∈ T, p.Precedes q) (first : d.FirstIn S found)
    (second : d.FirstIn T more) : d.FirstIn (S ∪ T) (found.or more) := by
  cases found with
  | some e =>
    obtain ⟨p, inside, violation, least⟩ := first
    refine ⟨p, .inl inside, violation, ?_⟩
    rintro q (early | late) e' violation' precedes
    · exact least q early e' violation' precedes
    · exact (order p inside q late).asymm precedes
  | none =>
    cases more with
    | none =>
      rintro p (early | late)
      · exact first p early
      · exact second p late
    | some e =>
      obtain ⟨p, inside, violation, least⟩ := second
      refine ⟨p, .inr inside, violation, ?_⟩
      rintro q (early | late) e' violation'
      · exact absurd violation' (first q early e')
      · exact least q late e' violation'

theorem check {c : Prop} [Decidable c] {e : ModuleError}
    (here : ∀ e', d.Violation p e' ↔ c ∧ e = e') (order : ∀ q ∈ S, p.Precedes q)
    (rest : d.FirstIn S found) :
    d.FirstIn (insert p S) (if c then some e else found) := by
  have alone : d.FirstIn {p} (if c then some e else none) := by
    apply single
    intro e'
    rw [here e']
    simp
  have both := FirstIn.or (by rintro q rfl; exact order) alone rest
  split at both <;> simpa [*] using both

end FirstIn

def item (part : Part) (i : Nat) : Set Place := { p | p.part = part ∧ p.index = i }

theorem findSome?_cons_eq_or {α β : Type} {f : α → Option β} {a : α} {l : List α} :
    (a :: l).findSome? f = (f a).or (l.findSome? f) := by
  cases h : f a <;> simp [h]

theorem firstIn_findSome? {α : Type} {part : Part} {table : List α} {k : Nat}
    {failure? : α × Nat → Option ModuleError}
    (items : ∀ i a, table[i]? = some a → d.FirstIn (item part (k + i)) (failure? (a, k + i))) :
    d.FirstIn { p | p.part = part ∧ k ≤ p.index ∧ p.index < k + table.length }
      ((table.zipIdx k).findSome? failure?) := by
  induction table generalizing k with
  | nil =>
    apply FirstIn.none_of_empty.congr
    intro p e _
    simp
  | cons a rest ih =>
    have here := items 0 a rfl
    have later := ih (k := k + 1) fun i a found => by
      have there := items (i + 1) a (by simpa using found)
      rwa [← Nat.add_assoc, Nat.add_right_comm] at there
    rw [List.zipIdx_cons, findSome?_cons_eq_or]
    refine FirstIn.congr ?_ (FirstIn.or ?_ here later)
    · intro p e _
      simp only [item, Set.mem_union, Set.mem_ofPred_eq, List.length_cons]
      grind
    · rintro p ⟨rfl, rfl⟩ q ⟨same, later, -⟩
      exact .inr ⟨same.symm, .inl later⟩

theorem firstIn_part {α : Type} {part : Part} {table : List α}
    {failure? : α × Nat → Option ModuleError} (whole : table.length = d.size part)
    (items : ∀ i a, table[i]? = some a → d.FirstIn (item part i) (failure? (a, i))) :
    d.FirstIn { p | p.part = part } (table.zipIdx.findSome? failure?) := by
  have search := firstIn_findSome? (k := 0) (by simpa using items)
  refine FirstIn.congr ?_ search
  intro p e violation
  have inside := violation.index_lt
  simp only [Set.mem_ofPred_eq, whole, Nat.zero_le, true_and, Nat.zero_add, and_iff_left_iff_imp]
  rintro rfl
  exact inside

theorem firstFailure_eq_findSome? {α : Type} {name : α → String}
    {check : Nat → Bool → α → Option ModuleError} {seen : Std.TreeSet String}
    (done table : List α) (known : ∀ x, seen.contains x = true ↔ x ∈ done.map name) :
    firstFailure name check done.length seen table =
      (table.zipIdx done.length).findSome? fun a =>
        check a.2 (decide (name a.1 ∈ ((done ++ table).take a.2).map name)) a.1 := by
  induction table generalizing done seen with
  | nil => rfl
  | cons a rest ih =>
    have repeated : seen.contains (name a) = decide (name a ∈ done.map name) := by
      rw [Bool.eq_iff_iff, known, decide_eq_true_iff]
    have known' : ∀ x, (seen.insert (name a)).contains x = true ↔ x ∈ (done ++ [a]).map name := by
      intro x
      rw [Std.TreeSet.contains_insert]
      simp [known, or_comm, eq_comm (a := x)]
    have later := ih (done ++ [a]) known'
    simp only [List.length_append, List.length_singleton, List.append_assoc,
      List.singleton_append] at later
    rw [List.zipIdx_cons, findSome?_cons_eq_or, ← later, firstFailure, repeated, List.take_left]
    split
    · next failed => rw [failed, Option.some_or]
    · next passed => rw [passed, Option.none_or]

theorem firstFailure_start {α : Type} (name : α → String)
    (check : Nat → Bool → α → Option ModuleError) (table : List α) :
    firstFailure name check 0 ∅ table =
      table.zipIdx.findSome? fun a =>
        check a.2 (decide (name a.1 ∈ (table.take a.2).map name)) a.1 :=
  firstFailure_eq_findSome? [] table (by simp)

theorem mem_take_iff {α : Type} {l : List α} {i : Nat} {a : α} :
    a ∈ l.take i ↔ ∃ j < i, l[j]? = some a := by
  simp [List.mem_iff_getElem?, List.getElem?_take]

theorem firstIn_piece {i : Nat} {name : String} (declared : d.pieces[i]? = some name) :
    d.FirstIn (item .pieces i)
      (d.pieceFailure? i (decide (name ∈ d.pieces.toList.take i)) name) := by
  have inside := (Array.getElem?_eq_some_iff.mp declared).1
  have size : ∀ e, d.Violation ⟨.pieces, i, 0⟩ e ↔
      idSpace ≤ i ∧ .tooManyPieces d.pieces.size = e := by
    refine fun e => ⟨fun violation => ?_, ?_⟩
    · cases violation with
      | tooManyPieces _ beyond => exact ⟨beyond, rfl⟩
    · rintro ⟨beyond, rfl⟩
      exact .tooManyPieces inside beyond
  have duplicate : ∀ e, d.Violation ⟨.pieces, i, 1⟩ e ↔
      decide (name ∈ d.pieces.toList.take i) = true ∧ .duplicatePiece name = e := by
    rw [decide_eq_true_iff, mem_take_iff]
    refine fun e => ⟨fun violation => ?_, ?_⟩
    · cases violation with
      | duplicatePiece declared' before same =>
        cases declared.symm.trans declared'
        exact ⟨⟨_, before, by simpa using same⟩, rfl⟩
    · rintro ⟨⟨j, before, same⟩, rfl⟩
      exact .duplicatePiece declared before (by simpa using same)
  have checks := FirstIn.none_of_empty.check duplicate (by simp) |>.check size
    (by simp [Place.Precedes])
  refine checks.congr ?_
  intro p e violation
  cases violation <;> simp [item]

theorem firstIn_script {i : Nat} {entry : EntryPoint} (declared : d.scripts[i]? = some entry) :
    d.FirstIn (item .scripts i) (d.scriptFailure? i
      (decide (entry.name ∈ (d.scripts.toList.take i).map EntryPoint.name)) entry) := by
  have inside := (Array.getElem?_eq_some_iff.mp declared).1
  have size : ∀ e, d.Violation ⟨.scripts, i, 0⟩ e ↔
      idSpace ≤ i ∧ .tooManyScripts d.scripts.size = e := by
    refine fun e => ⟨fun violation => ?_, ?_⟩
    · cases violation with
      | tooManyScripts _ beyond => exact ⟨beyond, rfl⟩
    · rintro ⟨beyond, rfl⟩
      exact .tooManyScripts inside beyond
  have duplicate : ∀ e, d.Violation ⟨.scripts, i, 1⟩ e ↔
      decide (entry.name ∈ (d.scripts.toList.take i).map EntryPoint.name) = true ∧
        .duplicateEntryPoint entry.name = e := by
    rw [decide_eq_true_iff, List.mem_map]
    simp only [mem_take_iff, Array.getElem?_toList]
    refine fun e => ⟨fun violation => ?_, ?_⟩
    · cases violation with
      | duplicateEntryPoint declared' before earlier same =>
        cases declared.symm.trans declared'
        exact ⟨⟨_, ⟨_, before, earlier⟩, same⟩, rfl⟩
    · rintro ⟨⟨other, ⟨j, before, earlier⟩, same⟩, rfl⟩
      exact .duplicateEntryPoint declared before earlier same
  have params : ∀ e, d.Violation ⟨.scripts, i, 2⟩ e ↔ entry.locals < entry.params ∧
      .paramsExceedLocals entry.name entry.params entry.locals = e := by
    rw [UInt16.lt_iff_toNat_lt]
    refine fun e => ⟨fun violation => ?_, ?_⟩
    · cases violation with
      | paramsExceedLocals declared' exceed =>
        cases declared.symm.trans declared'
        exact ⟨exceed, rfl⟩
    · rintro ⟨exceed, rfl⟩
      exact .paramsExceedLocals declared exceed
  have offset : ∀ e, d.Violation ⟨.scripts, i, 3⟩ e ↔ d.code.size ≤ entry.offset.toNat ∧
      .entryOutOfRange entry.name entry.offset = e := by
    refine fun e => ⟨fun violation => ?_, ?_⟩
    · cases violation with
      | entryOutOfRange declared' outside =>
        cases declared.symm.trans declared'
        exact ⟨outside, rfl⟩
    · rintro ⟨outside, rfl⟩
      exact .entryOutOfRange declared outside
  have checks := FirstIn.none_of_empty.check offset (by simp)
    |>.check params (by simp [Place.Precedes]) |>.check duplicate (by simp [Place.Precedes])
    |>.check size (by simp [Place.Precedes])
  refine checks.congr ?_
  intro p e violation
  cases violation <;> simp [item]

theorem firstIn_jump {place : Nat} {i : Instr} (stands : d.code[place]? = some i) :
    d.FirstIn {⟨.code, place, 0⟩} (d.jumpFailure? place i) := by
  apply FirstIn.single
  intro e
  simp only [jumpFailure?, Option.bind_eq_some_iff, Option.ite_none_right_eq_some,
    Option.some.injEq, Instr.jumpTarget?_eq_some_iff]
  constructor
  · intro violation
    cases violation with
    | jumpOutOfRange stands' refers outside =>
      cases stands.symm.trans stands'
      exact ⟨_, refers, outside, rfl⟩
  · rintro ⟨target, refers, outside, rfl⟩
    exact .jumpOutOfRange stands refers outside

theorem firstIn_pieceReference {place : Nat} {i : Instr} (stands : d.code[place]? = some i) :
    d.FirstIn {⟨.code, place, 1⟩} (d.pieceReferenceFailure? place i) := by
  apply FirstIn.single
  intro e
  simp only [pieceReferenceFailure?, Option.bind_eq_some_iff, Option.ite_none_right_eq_some,
    Option.some.injEq, Instr.piece?_eq_some_iff]
  constructor
  · intro violation
    cases violation with
    | pieceOutOfRange stands' refers outside =>
      cases stands.symm.trans stands'
      exact ⟨_, refers, outside, rfl⟩
  · rintro ⟨piece, refers, outside, rfl⟩
    exact .pieceOutOfRange stands refers outside

theorem firstIn_static {place : Nat} {i : Instr} (stands : d.code[place]? = some i) :
    d.FirstIn {⟨.code, place, 2⟩} (d.staticFailure? place i) := by
  apply FirstIn.single
  intro e
  simp only [staticFailure?, Option.bind_eq_some_iff, Option.ite_none_right_eq_some,
    Option.some.injEq, Instr.staticSlot?_eq_some_iff, UInt16.le_iff_toNat_le]
  constructor
  · intro violation
    cases violation with
    | staticOutOfRange stands' refers outside =>
      cases stands.symm.trans stands'
      exact ⟨_, refers, outside, rfl⟩
  · rintro ⟨slot, refers, outside, rfl⟩
    exact .staticOutOfRange stands refers outside

theorem firstIn_invocation {place : Nat} {i : Instr} (stands : d.code[place]? = some i) :
    d.FirstIn {⟨.code, place, 3⟩, ⟨.code, place, 4⟩} (d.invocationFailure? place i) := by
  have script : d.FirstIn {⟨.code, place, 3⟩} (i.invocation?.bind fun invoked =>
      if d.scripts.size ≤ invoked.1.index then some (.scriptOutOfRange place invoked.1)
      else none) := by
    apply FirstIn.single
    intro e
    simp only [Option.bind_eq_some_iff, Prod.exists, Option.ite_none_right_eq_some,
      Option.some.injEq, Instr.invocation?_eq_some_iff]
    constructor
    · intro violation
      cases violation with
      | scriptOutOfRange stands' refers outside =>
        cases stands.symm.trans stands'
        exact ⟨_, _, refers, outside, rfl⟩
    · rintro ⟨script, argc, refers, outside, rfl⟩
      exact .scriptOutOfRange stands refers outside
  have arguments : d.FirstIn {⟨.code, place, 4⟩} (i.invocation?.bind fun invoked =>
      d.scripts[invoked.1.index]?.bind fun entry =>
        if entry.locals < invoked.2.toUInt16 then
          some (.tooManyArguments place entry.name invoked.2 entry.locals)
        else none) := by
    apply FirstIn.single
    intro e
    simp only [Option.bind_eq_some_iff, Prod.exists, Option.ite_none_right_eq_some,
      Option.some.injEq, Instr.invocation?_eq_some_iff, UInt16.lt_iff_toNat_lt,
      UInt8.toNat_toUInt16]
    constructor
    · intro violation
      cases violation with
      | tooManyArguments stands' refers declared exceed =>
        cases stands.symm.trans stands'
        exact ⟨_, _, refers, _, declared, exceed, rfl⟩
    · rintro ⟨script, argc, refers, entry, declared, exceed, rfl⟩
      exact .tooManyArguments stands refers declared exceed
  have both := FirstIn.or (by simp [Place.Precedes]) script arguments
  rw [Set.insert_eq]
  convert both using 1
  unfold invocationFailure?
  cases i.invocation? with
  | none => rfl
  | some invocation =>
    obtain ⟨script, argc⟩ := invocation
    rcases Nat.lt_or_ge script.index d.scripts.size with inside | outside
    · simp [Array.getElem?_eq_getElem inside, Nat.not_le.mpr inside]
    · simp [outside]

theorem firstIn_instr {place : Nat} {i : Instr} (stands : d.code[place]? = some i) :
    d.FirstIn (item .code place) (d.instrFailure? place i) := by
  have checks := FirstIn.or (by simp [Place.Precedes]) (firstIn_jump stands)
    (FirstIn.or (by simp [Place.Precedes]) (firstIn_pieceReference stands)
      (FirstIn.or (by simp [Place.Precedes]) (firstIn_static stands) (firstIn_invocation stands)))
  simp only [instrFailure?, Option.orElse_eq_orElse, Option.orElse_eq_or]
  refine checks.congr ?_
  intro p e violation
  cases violation <;> simp [item]

theorem firstIn_pieces (d : ModuleDefinition) :
    d.FirstIn { p | p.part = .pieces }
      (firstFailure id d.pieceFailure? 0 ∅ d.pieces.toList) := by
  rw [firstFailure_start]
  apply firstIn_part rfl
  intro i name declared
  simpa using firstIn_piece (by simpa using declared)

theorem firstIn_scripts (d : ModuleDefinition) :
    d.FirstIn { p | p.part = .scripts }
      (firstFailure EntryPoint.name d.scriptFailure? 0 ∅ d.scripts.toList) := by
  rw [firstFailure_start]
  apply firstIn_part rfl
  intro i entry declared
  exact firstIn_script (by simpa using declared)

theorem firstIn_code (d : ModuleDefinition) :
    d.FirstIn { p | p.part = .code }
      (d.code.toList.zipIdx.findSome? fun (i, place) => d.instrFailure? place i) := by
  apply firstIn_part rfl
  intro place i stands
  exact firstIn_instr (by simpa using stands)

theorem firstIn_failure? (d : ModuleDefinition) : d.FirstIn Set.univ d.failure? := by
  simp only [failure?, Option.orElse_eq_orElse, Option.orElse_eq_or]
  refine FirstIn.congr ?_
    (FirstIn.or ?_ d.firstIn_pieces (FirstIn.or ?_ d.firstIn_scripts d.firstIn_code))
  · rintro ⟨part, i, check⟩ e -
    cases part <;> simp
  · rintro p hp q (hq | hq) <;> exact .inl (by simp_all [Part.rank])
  · rintro p hp q hq
    exact .inl (by simp_all [Part.rank])

theorem Violation.error_unique {p : Place} {e e' : ModuleError} (h : d.Violation p e)
    (h' : d.Violation p e') : e = e' := by
  cases h <;> cases h' <;> simp_all

theorem failure?_eq_none_iff_valid : d.failure? = none ↔ d.Valid := by
  have search := d.firstIn_failure?
  constructor
  · intro passed
    rw [passed] at search
    exact valid_of_no_violation fun p => search p trivial
  · intro valid
    cases found : d.failure? with
    | none => rfl
    | some e =>
      rw [found] at search
      obtain ⟨p, -, violation, -⟩ := search
      exact absurd violation (valid.no_violation p e)

theorem failure?_eq_some_iff_first {e : ModuleError} :
    d.failure? = some e ↔ d.FirstViolation e := by
  have search := d.firstIn_failure?
  constructor
  · intro failed
    rw [failed] at search
    obtain ⟨p, -, violation, first⟩ := search
    exact ⟨p, violation, fun q => first q trivial⟩
  · rintro ⟨p, violation, first⟩
    cases found : d.failure? with
    | none =>
      rw [found] at search
      exact absurd violation (search p trivial e)
    | some e' =>
      rw [found] at search
      obtain ⟨q, -, violation', first'⟩ := search
      have same := Place.eq_of_not_precedes (first' p trivial e violation) (first q e' violation')
      rw [same] at violation
      rw [violation'.error_unique violation]

end ModuleDefinition

namespace Module

theorem ofDefinition_eq_error_iff {d : ModuleDefinition} {e : ModuleError} :
    ofDefinition d = .error e ↔ d.failure? = some e := by
  unfold ofDefinition
  split <;> simp_all

theorem exists_ofDefinition_eq_ok_iff {d : ModuleDefinition} :
    (∃ m, ofDefinition d = .ok m) ↔ d.failure? = none := by
  unfold ofDefinition
  split <;> simp_all

/-- A module is built from exactly the descriptions in which all names are distinct, all tables fit
and all references lead somewhere; of any other description the first violation is the error. -/
theorem ofDefinition_exact (d : ModuleDefinition) :
    ((∃ m, ofDefinition d = .ok m) ↔ d.Valid) ∧
      (∀ m, ofDefinition d = .ok m → m.definition = d) ∧
        ∀ e, ofDefinition d = .error e ↔ d.FirstViolation e := by
  refine ⟨?_, fun m => ofDefinition_eq_ok, fun e => ?_⟩
  · rw [exists_ofDefinition_eq_ok_iff, ModuleDefinition.failure?_eq_none_iff_valid]
  · rw [ofDefinition_eq_error_iff, ModuleDefinition.failure?_eq_some_iff_first]

end Module

end UnitScript
