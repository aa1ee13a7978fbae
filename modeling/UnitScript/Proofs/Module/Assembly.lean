import Mathlib.Data.List.Forall2
import UnitScript.Proofs.Module.Builder
import UnitScript.Proofs.Module.Lookup

namespace UnitScript

theorem mapM_eq_ok {ε α β : Type} {f : α → Except ε β} {l : List α} {out : List β}
    (h : l.mapM f = .ok out) : List.Forall₂ (fun a b => f a = .ok b) l out := by
  induction l generalizing out with
  | nil =>
    cases h
    exact .nil
  | cons a rest ih =>
    rw [List.mapM_cons] at h
    cases first : f a with
    | error e => simp [first, bind, Except.bind] at h
    | ok b =>
      cases later : rest.mapM f with
      | error e => simp [first, later, bind, Except.bind] at h
      | ok out' =>
        simp only [first, later, bind, Except.bind, pure, Except.pure, Except.ok.injEq] at h
        subst h
        exact .cons first (ih later)

theorem mapM_eq_error {ε α β : Type} {f : α → Except ε β} {l : List α} {e : ε}
    (h : l.mapM f = .error e) : ∃ a ∈ l, f a = .error e := by
  induction l with
  | nil => cases h
  | cons a rest ih =>
    rw [List.mapM_cons] at h
    cases first : f a with
    | error e' =>
      simp only [first, bind, Except.bind, Except.error.injEq] at h
      exact ⟨a, List.mem_cons_self, h ▸ first⟩
    | ok b =>
      cases later : rest.mapM f with
      | error e' =>
        simp only [first, later, bind, Except.bind, Except.error.injEq] at h
        obtain ⟨a', member, failed⟩ := ih (later.trans (congrArg _ h))
        exact ⟨a', List.mem_cons_of_mem a member, failed⟩
      | ok out => simp [first, later, bind, Except.bind, pure, Except.pure] at h

structure EntryPoint.Embodies (e : EntryPoint) (s : Declaration) : Prop where
  offset : s.offset = some e.offset
  name : e.name = s.name
  params : e.params = s.params
  locals : e.locals = s.locals

namespace ModuleBuilder

variable {b : ModuleBuilder} {calls : List Call} {m : Module}

theorem entryPoints_eq_ok {entries : List EntryPoint} (h : b.entryPoints = .ok entries) :
    List.Forall₂ (fun s e => e.Embodies s) b.scripts.toList entries := by
  refine (mapM_eq_ok h).imp ?_
  intro s e made
  split at made
  · next offset placed =>
    cases made
    exact ⟨placed, rfl, rfl, rfl⟩
  · cases made

theorem entryPoints_eq_error {e : ModuleError} (h : b.entryPoints = .error e) :
    ∃ name, e = .undefinedEntryPoint name := by
  obtain ⟨s, -, failed⟩ := mapM_eq_error h
  split at failed
  · cases failed
  · cases failed
    exact ⟨s.name, rfl⟩

def definition (b : ModuleBuilder) (entries : List EntryPoint) : ModuleDefinition :=
  { pieces := b.pieces, statics := b.statics, scripts := entries.toArray, code := b.code }

theorem build_cases (b : ModuleBuilder) :
    (∃ name, b.build = .error (.undefinedEntryPoint name)) ∨
      ∃ entries : List EntryPoint, List.Forall₂ (fun s e => e.Embodies s) b.scripts.toList entries ∧
        b.build = Module.ofDefinition (b.definition entries) := by
  unfold build
  cases made : b.entryPoints with
  | error e =>
    obtain ⟨name, rfl⟩ := entryPoints_eq_error made
    exact .inl ⟨name, rfl⟩
  | ok entries => exact .inr ⟨entries, entryPoints_eq_ok made, rfl⟩

theorem map_name_entries {entries : List EntryPoint}
    (embodied : List.Forall₂ (fun s e => e.Embodies s) b.scripts.toList entries) :
    entries.map EntryPoint.name = b.heads.map Declaration.name := by
  rw [heads, List.map_map]
  generalize b.scripts.toList = scripts at embodied
  induction embodied with
  | nil => rfl
  | cons embodies _ ih => exact congrArg₂ _ embodies.name ih

theorem nodup_pieces (calls : List Call) : (after {} calls).pieces.toList.Nodup := by
  rw [pieces_after, ← List.map_id (List.foldl _ _ _)]
  exact nodup_foldl_intern _ List.nodup_nil

theorem build_ne_duplicate (calls : List Call) (name : String) :
    (after {} calls).build ≠ .error (.duplicatePiece name) ∧
      (after {} calls).build ≠ .error (.duplicateEntryPoint name) := by
  obtain ⟨name', failed⟩ | ⟨entries, embodied, built⟩ := (after {} calls).build_cases
  · simp [failed]
  · rw [built, ne_eq, ne_eq, Module.ofDefinition_eq_error_iff, Module.ofDefinition_eq_error_iff,
      ModuleDefinition.failure?_eq_some_iff_first, ModuleDefinition.failure?_eq_some_iff_first]
    constructor
    · rintro ⟨p, violation, -⟩
      exact ModuleDefinition.not_duplicatePiece (nodup_pieces calls) violation
    · rintro ⟨p, violation, -⟩
      refine ModuleDefinition.not_duplicateEntryPoint ?_ violation
      change (entries.map EntryPoint.name).Nodup
      rw [map_name_entries embodied]
      exact nodup_heads calls

/-- What a module has, told by the calls that a builder made it of. -/
structure Assembled (calls : List Call) (m : Module) : Prop where
  piece : ∀ name a, (.piece name, a) ∈ transcript {} calls →
    ∃ id, a = .piece id ∧ m.pieceIndex name = .ok id
  script : ∀ c s a, (c, a) ∈ transcript {} calls → c.declaration? = some s →
    ∃ id, a = .script id ∧ m.entryPoint s.name = .ok id
  asked : ∀ name ∈ m.definition.pieces, .piece name ∈ calls
  /-- Every script is as it was declared first. -/
  declared : ∀ id entry, m.script? id = some entry →
    (declarations calls).find? (·.name = entry.name) =
      some { name := entry.name, params := entry.params, locals := entry.locals }
  /-- Every script starts where it was let start last. -/
  placed : ∀ id entry, m.script? id = some entry →
    LastPlaced calls id entry.name entry.offset.toNat
  statics : m.definition.statics = (calls.filterMap Call.statics?).getLast?.getD 0
  /-- The code is what was emitted, with the targets that jumps were led to last. -/
  code : ∀ place, m.instr? place =
    (emitted calls)[place]?.map (·.retarget (targets calls place).getLast?)

theorem apply_patchJump (calls : List Call) (place : Nat) (target : Offset) :
    if ((emitted calls)[place]?.bind Instr.jumpTarget?).isSome then
      ((after {} calls).apply (.patchJump place target)).1 = .patched (.ok ())
    else
      (after {} calls).apply (.patchJump place target) =
        (.patched (.error (.notAJump place)), after {} calls) := by
  have jumps : ((emitted calls)[place]?.bind Instr.jumpTarget?).isSome =
      ((after {} calls).code[place]?.bind (·.withTarget? target)).isSome := by
    rw [getElem?_code_after]
    cases (emitted calls)[place]? with
    | none => rfl
    | some i => simp [Instr.withTarget?_retarget, Instr.isSome_withTarget?]
  rw [jumps]
  have change := (after {} calls).apply_change (.patchJump place target)
  generalize (after {} calls).apply (.patchJump place target) = result at change ⊢
  cases change with
  | patchJump stands jumps => simp [stands, jumps]
  | notAJump other => simp [other]

structure Realizes (b : ModuleBuilder) (m : Module) : Prop where
  pieces : m.definition.pieces = b.pieces
  statics : m.definition.statics = b.statics
  scripts : List.Forall₂ (fun s e => e.Embodies s) b.scripts.toList m.definition.scripts.toList
  code : m.definition.code = b.code

theorem realizes_of_build (built : b.build = .ok m) : b.Realizes m := by
  obtain ⟨name, failed⟩ | ⟨entries, embodied, made⟩ := b.build_cases
  · cases built.symm.trans failed
  · have definition := Module.ofDefinition_eq_ok (made.symm.trans built)
    constructor <;> rw [definition]
    · rfl
    · rfl
    · exact embodied
    · rfl

namespace Realizes

variable {i : Nat} {name : String} {s : Declaration}

theorem size_scripts_le (h : b.Realizes m) : b.scripts.size ≤ 65536 := by
  have length := h.scripts.length_eq
  have few := m.valid.scripts_few
  rw [Array.length_toList, Array.length_toList] at length
  omega

theorem exists_script (h : b.Realizes m) {id : ScriptId} {entry : EntryPoint}
    (found : m.script? id = some entry) :
    ∃ s, b.scripts[id.index]? = some s ∧ entry.Embodies s := by
  obtain ⟨inside, rfl⟩ := Array.getElem?_eq_some_iff.mp found
  have inside' : id.index < b.scripts.size := by
    have length := h.scripts.length_eq
    rw [Array.length_toList, Array.length_toList] at length
    omega
  refine ⟨b.scripts[id.index], Array.getElem?_eq_getElem inside', ?_⟩
  exact (List.forall₂_iff_get.mp h.scripts).2 id.index (by simpa) (by simpa)

theorem pieceIndex (h : b.Realizes m) (found : b.pieces[i]? = some name) :
    m.pieceIndex name = .ok ⟨UInt16.ofNat i⟩ := by
  have inside := (Array.getElem?_eq_some_iff.mp found).1
  rw [← h.pieces] at found inside
  rw [Module.pieceIndex_eq_ok_iff, Module.pieceName?, PieceId.index,
    UInt16.toNat_ofNat_of_lt' (Nat.lt_of_lt_of_le inside m.valid.pieces_few), found]

theorem entryPoint (h : b.Realizes m) (found : b.heads[i]? = some s) :
    m.entryPoint s.name = .ok ⟨UInt16.ofNat i⟩ := by
  have inside := (List.getElem?_eq_some_iff.mp found).1
  rw [length_heads] at inside
  have names := congrArg (·[i]?) (map_name_entries h.scripts)
  simp only [List.getElem?_map, found, Option.map_some, Option.map_eq_some_iff,
    Array.getElem?_toList] at names
  rw [Module.entryPoint_eq_ok_iff, Module.script?, index_ofNat inside h.size_scripts_le]
  exact names

end Realizes

theorem find?_declarations {s : Declaration} (member : s ∈ (after {} calls).scripts) :
    (declarations calls).find? (·.name = s.name) = some s.unplaced := by
  have member : s.unplaced ∈ (after {} calls).heads := List.mem_map_of_mem member.val
  have found := find?_of_nodup (nodup_heads calls) member
  rw [heads_after, find?_foldl_intern] at found
  exact found

theorem build_assembled (calls : List Call) (short : (emitted calls).length < UInt32.size) :
    (∀ name, (after {} calls).build ≠ .error (.duplicatePiece name) ∧
      (after {} calls).build ≠ .error (.duplicateEntryPoint name)) ∧
    (∀ m, (after {} calls).build = .ok m → Assembled calls m) ∧
    ∀ place target,
      if ((emitted calls)[place]?.bind Instr.jumpTarget?).isSome then
        ((after {} calls).apply (.patchJump place target)).1 = .patched (.ok ())
      else
        (after {} calls).apply (.patchJump place target) =
          (.patched (.error (.notAJump place)), after {} calls) := by
  refine ⟨build_ne_duplicate calls, ?_, apply_patchJump calls⟩
  intro m built
  have real := realizes_of_build built
  refine
    { piece := ?_
      script := ?_
      asked := ?_
      declared := ?_
      placed := ?_
      statics := ?_
      code := ?_ }
  · intro name a answered
    obtain ⟨i, rfl, stands⟩ := piece_of_answer answered
    exact ⟨_, rfl, real.pieceIndex stands⟩
  · intro c s a answered declares
    obtain ⟨i, s', rfl, stands, named⟩ := script_of_answer answered declares
    exact ⟨_, rfl, named ▸ real.entryPoint stands⟩
  · intro name member
    rw [real.pieces, ← Array.mem_toList_iff, pieces_after] at member
    obtain new | asked := mem_of_mem_foldl_intern _ member
    · cases new
    · obtain ⟨c, member, asks⟩ := List.mem_filterMap.mp asked
      cases c with
      | piece =>
        cases asks
        exact member
      | _ => cases asks
  · intro id entry found
    obtain ⟨s, stands, embodies⟩ := real.exists_script found
    rw [embodies.name, find?_declarations (Array.mem_of_getElem? stands), Declaration.unplaced,
      embodies.params, embodies.locals]
  · intro id entry found
    obtain ⟨s, stands, embodies⟩ := real.exists_script found
    have last := lastPlaced_of_offset short real.size_scripts_le stands embodies.offset
    rw [embodies.name]
    rwa [ScriptId.index, UInt16.ofNat_toNat] at last
  · rw [real.statics, statics_after]
  · intro place
    rw [Module.instr?, real.code, getElem?_code_after]

def sketch : List Call :=
  [.piece "base", .declare "Fire" 0 1, .beginScript "Create" 0 0, .emit (.jump 0),
    .emitAll [.returnFromScript, .callScript ⟨0⟩ 0], .patchJump 1 0, .patchJump 0 2, .piece "base",
    .staticSlots 2, .emit .returnFromScript, .define ⟨0⟩, .declare "Fire" 3 7, .staticSlots 1,
    .emitAll [.pushStatic 0, .returnFromScript]]

theorem sketch_assembled :
    ∃ m, (after {} sketch).build = .ok m ∧ Assembled sketch m ∧ m.pieceIndex "base" = .ok ⟨0⟩ ∧
      m.entryPoint "Fire" = .ok ⟨0⟩ ∧ m.instr? 0 = some (.jump 2) ∧ m.definition.statics = 1 ∧
      (after {} sketch).apply (.patchJump 1 0) =
        (.patched (.error (.notAJump 1)), after {} sketch) := by
  obtain ⟨-, assembled, patch⟩ := build_assembled sketch (by decide)
  have succeeds : (after {} sketch).build.isOk = true := by decide +kernel
  cases built : (after {} sketch).build with
  | error e =>
    rw [built] at succeeds
    cases succeeds
  | ok m =>
    have made := assembled m built
    refine ⟨m, rfl, made, ?_, ?_, ?_, ?_, patch 1 0⟩
    · obtain ⟨id, answer, found⟩ := made.piece "base" (.piece ⟨0⟩) (by decide +kernel)
      cases answer
      exact found
    · obtain ⟨id, answer, found⟩ :=
        made.script (.declare "Fire" 3 7) _ (.script ⟨0⟩) (by decide +kernel) rfl
      cases answer
      exact found
    · have target : targets sketch 0 = [2] := by decide +kernel
      rw [made.code, target]
      rfl
    · exact made.statics

end ModuleBuilder

end UnitScript
