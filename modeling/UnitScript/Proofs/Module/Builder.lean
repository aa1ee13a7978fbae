import Mathlib.Data.List.Induction
import Mathlib.Data.List.Nodup
import UnitScript.Module.Builder

namespace UnitScript

section Intern

variable {α β : Type} {key : α → String} {l : List α} {a : α}

def intern (key : α → String) (l : List α) (a : α) : List α :=
  if key a ∈ l.map key then l else l ++ [a]

theorem map_intern {key' : β → String} (f : α → β) (same : ∀ a, key' (f a) = key a) :
    (intern key l a).map f = intern key' (l.map f) (f a) := by
  have keys : (l.map f).map key' = l.map key := by simp [same]
  unfold intern
  rw [keys, same]
  split <;> simp

theorem prefix_intern : l <+: intern key l a := by
  unfold intern
  split
  · exact List.prefix_rfl
  · exact List.prefix_append l [a]

theorem nodup_intern (distinct : (l.map key).Nodup) : ((intern key l a).map key).Nodup := by
  unfold intern
  split
  · exact distinct
  · next new =>
    rw [List.map_append]
    exact List.nodup_append.mpr ⟨distinct, List.nodup_singleton _, by grind⟩

theorem find?_intern (n : String) :
    (intern key l a).find? (key · = n) = (l ++ [a]).find? (key · = n) := by
  unfold intern
  split
  · next taken =>
    obtain ⟨x, member, same⟩ := List.mem_map.mp taken
    by_cases here : key a = n
    · have found : (l.find? (key · = n)).isSome = true :=
        List.find?_isSome.mpr ⟨x, member, decide_eq_true (same.trans here)⟩
      rw [List.find?_append, Option.or_of_isSome found]
    · simp [List.find?_append, here]
  · rfl

theorem find?_of_nodup (distinct : (l.map key).Nodup) (member : a ∈ l) :
    l.find? (key · = key a) = some a := by
  cases found : l.find? (key · = key a) with
  | none => simpa using List.find?_eq_none.mp found a member
  | some x =>
    have same : key x = key a := by simpa using List.find?_some found
    rw [List.inj_on_of_nodup_map distinct (List.mem_of_find?_eq_some found) member same]

theorem getElem?_intern {i : Nat} {x : α} (found : (intern key l a)[i]? = some x) :
    l[i]? = some x ∨ x = a := by
  unfold intern at found
  split at found
  · exact .inl found
  · rw [List.getElem?_append] at found
    split at found
    · exact .inl found
    · exact .inr (List.mem_singleton.mp (List.mem_of_getElem? found))

theorem intern_of_found (key : α → String) {items : Array α} {i : Nat}
    (found : items.findIdx? (key · = key a) = some i) :
    intern key items.toList a = items.toList ∧
      ∃ x, items.toList[i]? = some x ∧ key x = key a := by
  obtain ⟨inside, same, -⟩ := Array.findIdx?_eq_some_iff_getElem.mp found
  have same := of_decide_eq_true same
  refine ⟨if_pos ?_, items[i], by simp [inside], same⟩
  rw [← same]
  exact List.mem_map_of_mem (Array.getElem_mem_toList inside)

theorem intern_of_missing (key : α → String) {items : Array α}
    (missing : items.findIdx? (key · = key a) = none) :
    intern key items.toList a = items.toList ++ [a] := by
  rw [Array.findIdx?_eq_none_iff] at missing
  apply if_neg
  rw [List.mem_map]
  rintro ⟨x, member, same⟩
  simpa [same] using missing x (Array.mem_toList_iff.mp member)

theorem prefix_foldl_intern (items : List α) : l <+: items.foldl (intern key) l := by
  induction items generalizing l with
  | nil => exact List.prefix_rfl
  | cons a rest ih => exact prefix_intern.trans ih

theorem getElem?_foldl_intern {i : Nat} {x : α} (items : List α) (found : l[i]? = some x) :
    (items.foldl (intern key) l)[i]? = some x := by
  obtain ⟨rest, whole⟩ : l <+: items.foldl (intern key) l := prefix_foldl_intern items
  rw [← whole, List.getElem?_append_left (List.getElem?_eq_some_iff.mp found).1, found]

theorem mem_of_mem_foldl_intern {x : α} (items : List α) (h : x ∈ items.foldl (intern key) l) :
    x ∈ l ∨ x ∈ items := by
  induction items generalizing l with
  | nil => exact .inl h
  | cons a rest ih =>
    obtain entered | later := ih h
    · obtain ⟨i, entered⟩ := List.mem_iff_getElem?.mp entered
      obtain found | rfl := getElem?_intern entered
      · exact .inl (List.mem_of_getElem? found)
      · exact .inr List.mem_cons_self
    · exact .inr (List.mem_cons_of_mem a later)

theorem nodup_foldl_intern (items : List α) (distinct : (l.map key).Nodup) :
    ((items.foldl (intern key) l).map key).Nodup := by
  induction items generalizing l with
  | nil => exact distinct
  | cons a rest ih => exact ih (nodup_intern distinct)

theorem find?_foldl_intern (items : List α) (n : String) :
    (items.foldl (intern key) l).find? (key · = n) = (l ++ items).find? (key · = n) := by
  induction items generalizing l with
  | nil => simp
  | cons a rest ih =>
    rw [List.foldl_cons, ih, List.find?_append, find?_intern, ← List.find?_append,
      List.append_assoc, List.singleton_append]

end Intern

def Declaration.unplaced (s : Declaration) : Declaration := { s with offset := none }

/-- A jump with another target; an instruction that does not jump stays as it is, and so does a jump
that no target is given for. -/
def Instr.retarget (i : Instr) (target? : Option Offset) : Instr :=
  (target?.bind fun target => i.withTarget? target).getD i

@[simp] theorem Instr.retarget_none (i : Instr) : i.retarget none = i := rfl

theorem Instr.retarget_some {i jump : Instr} {target : Offset}
    (jumps : i.withTarget? target = some jump) : i.retarget (some target) = jump := by
  rw [retarget, Option.bind_some, jumps, Option.getD_some]

theorem Instr.withTarget?_retarget (i : Instr) (target? : Option Offset) (target : Offset) :
    (i.retarget target?).withTarget? target = i.withTarget? target := by
  cases target? with
  | none => rfl
  | some => cases i <;> rfl

theorem Instr.isSome_withTarget? (i : Instr) (target : Offset) :
    (i.withTarget? target).isSome = i.jumpTarget?.isSome := by
  cases i <;> rfl

namespace ModuleBuilder

inductive Call
  | piece (name : String)
  | staticSlots (count : UInt16)
  | declare (name : String) (params locals : UInt16)
  | define (id : ScriptId)
  | beginScript (name : String) (params locals : UInt16)
  | emit (i : Instr)
  | emitAll (instrs : List Instr)
  | patchJump (place : Nat) (target : Offset)
  deriving DecidableEq

inductive Answer
  | done
  | piece (id : PieceId)
  | script (id : ScriptId)
  | emitted (place : Nat)
  | defined (result : Except UndeclaredScript Unit)
  | patched (result : Except ModuleError Unit)
  deriving DecidableEq

namespace Call

def piece? : Call → Option String
  | .piece name => some name
  | _ => none

def statics? : Call → Option UInt16
  | .staticSlots count => some count
  | _ => none

def declaration? : Call → Option Declaration
  | .declare name params locals | .beginScript name params locals => some { name, params, locals }
  | _ => none

def instrs : Call → List Instr
  | .emit i => [i]
  | .emitAll instrs => instrs
  | _ => []

def Places (id : ScriptId) (name : String) : Call → Prop
  | .define other => other = id
  | .beginScript other _ _ => other = name
  | _ => False

end Call

def apply (b : ModuleBuilder) : Call → Answer × ModuleBuilder
  | .piece name =>
    let (id, b) := b.piece name
    (.piece id, b)
  | .staticSlots count => (.done, b.staticSlots count)
  | .declare name params locals =>
    let (id, b) := b.declare name params locals
    (.script id, b)
  | .define id =>
    match b.define id with
    | .ok b => (.defined (.ok ()), b)
    | .error error => (.defined (.error error), b)
  | .beginScript name params locals =>
    let (id, b) := b.beginScript name params locals
    (.script id, b)
  | .emit i =>
    let (place, b) := b.emit i
    (.emitted place, b)
  | .emitAll instrs => (.done, b.emitAll instrs)
  | .patchJump place target =>
    match b.patchJump place target with
    | .ok b => (.patched (.ok ()), b)
    | .error error => (.patched (.error error), b)

def after (b : ModuleBuilder) (calls : List Call) : ModuleBuilder :=
  calls.foldl (fun b c => (b.apply c).2) b

def transcript (b : ModuleBuilder) : List Call → List (Call × Answer)
  | [] => []
  | c :: rest => (c, (b.apply c).1) :: (b.apply c).2.transcript rest

def emitted (calls : List Call) : List Instr := calls.flatMap Call.instrs

def declarations (calls : List Call) : List Declaration := calls.filterMap Call.declaration?

def target? (place : Nat) : Call × Answer → Option Offset
  | (.patchJump p target, .patched (.ok _)) => if p = place then some target else none
  | _ => none

variable {b : ModuleBuilder} {calls : List Call} {c : Call}

theorem after_append (b : ModuleBuilder) (calls calls' : List Call) :
    b.after (calls ++ calls') = (b.after calls).after calls' :=
  List.foldl_append

theorem transcript_concat (b : ModuleBuilder) (calls : List Call) (c : Call) :
    b.transcript (calls ++ [c]) = b.transcript calls ++ [(c, ((b.after calls).apply c).1)] := by
  induction calls generalizing b with
  | nil => rfl
  | cons c' rest ih => exact congrArg _ (ih _)

inductive Change (b : ModuleBuilder) : Call → Answer × ModuleBuilder → Prop
  | piece {name : String} {i : Nat} {pieces : Array String}
    (interned : pieces.toList = intern id b.pieces.toList name) (stands : pieces[i]? = some name) :
    Change b (.piece name) (.piece ⟨UInt16.ofNat i⟩, { b with pieces })
  | staticSlots (count : UInt16) :
    Change b (.staticSlots count) (.done, { b with statics := count })
  | declare {name : String} {params locals : UInt16} {i : Nat} {s : Declaration}
    {scripts : Array Declaration}
    (interned : scripts.toList =
      intern Declaration.name b.scripts.toList { name, params, locals })
    (stands : scripts[i]? = some s) (named : s.name = name) :
    Change b (.declare name params locals) (.script ⟨UInt16.ofNat i⟩, { b with scripts })
  | define {id : ScriptId} (declared : id.index < b.scripts.size) :
    Change b (.define id) (.defined (.ok ()), b.place id)
  | undeclared {id : ScriptId} (undeclared : b.scripts.size ≤ id.index) :
    Change b (.define id) (.defined (.error ⟨b.scripts.size, id.index⟩), b)
  | beginScript {name : String} {params locals : UInt16} {i : Nat} {s : Declaration}
    {scripts : Array Declaration}
    (interned : scripts.toList =
      intern Declaration.name b.scripts.toList { name, params, locals })
    (stands : scripts[i]? = some s) (named : s.name = name) :
    Change b (.beginScript name params locals)
      (.script ⟨UInt16.ofNat i⟩, ({ b with scripts } : ModuleBuilder).place ⟨UInt16.ofNat i⟩)
  | emit (i : Instr) : Change b (.emit i) (.emitted b.code.size, { b with code := b.code.push i })
  | emitAll (instrs : List Instr) :
    Change b (.emitAll instrs) (.done, { b with code := b.code ++ instrs })
  | patchJump {place : Nat} {target : Offset} {i jump : Instr} (stands : b.code[place]? = some i)
    (jumps : i.withTarget? target = some jump) :
    Change b (.patchJump place target)
      (.patched (.ok ()), { b with code := b.code.setIfInBounds place jump })
  | notAJump {place : Nat} {target : Offset}
    (other : b.code[place]?.bind (·.withTarget? target) = none) :
    Change b (.patchJump place target) (.patched (.error (.notAJump place)), b)

theorem Change.code {r : Answer × ModuleBuilder} (change : b.Change c r) :
    (r.2.code.toList = b.code.toList ++ c.instrs ∧ ∀ place, target? place (c, r.1) = none) ∨
      ∃ place target i jump, c = .patchJump place target ∧ r.1 = .patched (.ok ()) ∧
        b.code[place]? = some i ∧ i.withTarget? target = some jump ∧
        r.2.code = b.code.setIfInBounds place jump := by
  cases change with
  | patchJump stands jumps => exact .inr ⟨_, _, _, _, rfl, rfl, stands, jumps, rfl⟩
  | emit i => exact .inl ⟨Array.toList_push .., fun _ => rfl⟩
  | emitAll instrs => exact .inl ⟨Array.toList_appendList .., fun _ => rfl⟩
  | _ => exact .inl ⟨(List.append_nil _).symm, fun _ => rfl⟩

theorem piece_outcome (b : ModuleBuilder) (name : String) :
    ∃ i pieces, b.piece name = (⟨UInt16.ofNat i⟩, { b with pieces }) ∧
      pieces.toList = intern id b.pieces.toList name ∧ pieces[i]? = some name := by
  unfold piece
  split
  · next i found =>
    obtain ⟨same, x, stands, rfl⟩ := intern_of_found id found
    exact ⟨i, b.pieces, rfl, same.symm, by simpa using stands⟩
  · next missing =>
    have new := intern_of_missing id missing
    exact ⟨b.pieces.size, b.pieces.push name, rfl, by simp [new], by simp⟩

theorem declare_outcome (b : ModuleBuilder) (name : String) (params locals : UInt16) :
    ∃ i scripts s, b.declare name params locals = (⟨UInt16.ofNat i⟩, { b with scripts }) ∧
      scripts.toList = intern Declaration.name b.scripts.toList { name, params, locals } ∧
      scripts[i]? = some s ∧ s.name = name := by
  unfold declare
  split
  · next i found =>
    obtain ⟨same, s, stands, named⟩ :=
      intern_of_found Declaration.name (a := { name, params, locals }) found
    exact ⟨i, b.scripts, s, rfl, same.symm, by simpa using stands, named⟩
  · next missing =>
    have new := intern_of_missing Declaration.name (a := { name, params, locals }) missing
    exact ⟨b.scripts.size, b.scripts.push { name, params, locals }, _, rfl, by simp [new],
      Array.getElem?_push_size, rfl⟩

theorem apply_change (b : ModuleBuilder) (c : Call) : b.Change c (b.apply c) := by
  cases c with
  | piece name =>
    obtain ⟨i, pieces, outcome, interned, stands⟩ := b.piece_outcome name
    rw [apply, outcome]
    exact .piece interned stands
  | declare name params locals =>
    obtain ⟨i, scripts, s, outcome, interned, stands, named⟩ := b.declare_outcome name params locals
    rw [apply, outcome]
    exact .declare interned stands named
  | beginScript name params locals =>
    obtain ⟨i, scripts, s, outcome, interned, stands, named⟩ := b.declare_outcome name params locals
    rw [apply, ModuleBuilder.beginScript, outcome]
    exact .beginScript interned stands named
  | define id =>
    rw [apply, ModuleBuilder.define]
    by_cases declared : id.index < b.scripts.size
    · rw [if_pos declared]
      exact .define declared
    · rw [if_neg declared]
      exact .undeclared (Nat.le_of_not_lt declared)
  | patchJump place target =>
    rw [apply, ModuleBuilder.patchJump]
    cases patched : b.code[place]?.bind (·.withTarget? target) with
    | none => exact .notAJump patched
    | some jump =>
      obtain ⟨i, stands, jumps⟩ := Option.bind_eq_some_iff.mp patched
      exact .patchJump stands jumps
  | staticSlots count => exact .staticSlots count
  | emit i => exact .emit i
  | emitAll instrs => exact .emitAll instrs

def heads (b : ModuleBuilder) : List Declaration := b.scripts.toList.map Declaration.unplaced

@[simp] theorem heads_place (b : ModuleBuilder) (id : ScriptId) : (b.place id).heads = b.heads := by
  apply List.ext_getElem?
  intro i
  simp only [heads, place, Array.toList_modify, List.getElem?_map, List.getElem?_modify]
  split <;> cases b.scripts.toList[i]? <;> rfl

theorem pieces_apply (b : ModuleBuilder) (c : Call) :
    (b.apply c).2.pieces.toList = c.piece?.elim b.pieces.toList (intern id b.pieces.toList) := by
  have change := b.apply_change c
  generalize b.apply c = result at change ⊢
  cases change <;> simp_all [Call.piece?, place]

theorem heads_apply (b : ModuleBuilder) (c : Call) :
    (b.apply c).2.heads = c.declaration?.elim b.heads (intern Declaration.name b.heads) := by
  have change := b.apply_change c
  generalize b.apply c = result at change ⊢
  have declared {scripts : Array Declaration} {s : Declaration}
      (interned : scripts.toList = intern Declaration.name b.scripts.toList s) :
      ({ b with scripts } : ModuleBuilder).heads =
        intern Declaration.name b.heads s.unplaced := by
    rw [heads, interned]
    exact map_intern _ fun _ => rfl
  cases change with
  | declare interned => exact declared interned
  | beginScript interned => exact (heads_place _ _).trans (declared interned)
  | define => exact heads_place _ _
  | _ => rfl

theorem statics_apply (b : ModuleBuilder) (c : Call) :
    (b.apply c).2.statics = c.statics?.getD b.statics := by
  have change := b.apply_change c
  generalize b.apply c = result at change ⊢
  cases change <;> rfl

theorem size_code_apply (b : ModuleBuilder) (c : Call) :
    (b.apply c).2.code.size = b.code.size + c.instrs.length := by
  have change := b.apply_change c
  generalize b.apply c = result at change ⊢
  cases change with
  | emitAll instrs =>
    rw [← Array.length_toList, Array.toList_appendList, List.length_append, Array.length_toList]
    rfl
  | emit i => exact Array.size_push ..
  | patchJump => exact Array.size_setIfInBounds
  | _ => rfl

theorem pieces_after (b : ModuleBuilder) (calls : List Call) :
    (b.after calls).pieces.toList =
      (calls.filterMap Call.piece?).foldl (intern id) b.pieces.toList := by
  induction calls generalizing b with
  | nil => rfl
  | cons c rest ih =>
    change ((b.apply c).2.after rest).pieces.toList = _
    rw [ih, pieces_apply]
    cases asked : c.piece? <;> simp [asked]

theorem getElem?_pieces_after {i : Nat} {name : String} (calls : List Call)
    (found : b.pieces[i]? = some name) : (b.after calls).pieces[i]? = some name := by
  rw [← Array.getElem?_toList, pieces_after]
  exact getElem?_foldl_intern _ (by simpa using found)

theorem heads_after (b : ModuleBuilder) (calls : List Call) :
    (b.after calls).heads = (declarations calls).foldl (intern Declaration.name) b.heads := by
  induction calls generalizing b with
  | nil => rfl
  | cons c rest ih =>
    change ((b.apply c).2.after rest).heads = _
    rw [ih, heads_apply]
    cases declared : c.declaration? <;> simp [declarations, declared]

theorem getElem?_heads_after {i : Nat} {s : Declaration} (calls : List Call)
    (found : b.heads[i]? = some s) : (b.after calls).heads[i]? = some s := by
  rw [heads_after]
  exact getElem?_foldl_intern _ found

theorem piece_of_answer {name : String} {a : Answer}
    (answered : (.piece name, a) ∈ b.transcript calls) :
    ∃ i, a = .piece ⟨UInt16.ofNat i⟩ ∧ (b.after calls).pieces[i]? = some name := by
  induction calls generalizing b with
  | nil => cases answered
  | cons c rest ih =>
    obtain here | later := List.mem_cons.mp answered
    · cases here
      change ∃ i, _ ∧ ((b.apply (.piece name)).2.after rest).pieces[i]? = some name
      have change := b.apply_change (.piece name)
      generalize b.apply (.piece name) = result at change ⊢
      cases change with
      | piece interned stands => exact ⟨_, rfl, getElem?_pieces_after rest stands⟩
    · exact ih later

theorem script_of_answer {s : Declaration} {a : Answer} (answered : (c, a) ∈ b.transcript calls)
    (declares : c.declaration? = some s) :
    ∃ i s', a = .script ⟨UInt16.ofNat i⟩ ∧ (b.after calls).heads[i]? = some s' ∧
      s'.name = s.name := by
  induction calls generalizing b with
  | nil => cases answered
  | cons c' rest ih =>
    obtain here | later := List.mem_cons.mp answered
    · cases here
      change ∃ i s', _ ∧ ((b.apply c).2.after rest).heads[i]? = some s' ∧ _
      have change := b.apply_change c
      generalize b.apply c = result at change ⊢
      have stays {scripts : Array Declaration} {i : Nat} {s' : Declaration}
          (stands : scripts[i]? = some s') :
          ({ b with scripts } : ModuleBuilder).heads[i]? = some s'.unplaced := by
        simp [heads, stands]
      cases change with
      | declare interned stands named =>
        cases declares
        exact ⟨_, _, rfl, getElem?_heads_after rest (stays stands), named⟩
      | beginScript interned stands named =>
        cases declares
        have there := stays stands
        rw [← heads_place] at there
        exact ⟨_, _, rfl, getElem?_heads_after rest there, named⟩
      | _ => cases declares
    · exact ih later

theorem statics_after (b : ModuleBuilder) (calls : List Call) :
    (b.after calls).statics = (calls.filterMap Call.statics?).getLast?.getD b.statics := by
  induction calls generalizing b with
  | nil => rfl
  | cons c rest ih =>
    change ((b.apply c).2.after rest).statics = _
    rw [ih, statics_apply]
    cases set : c.statics? <;> simp [set, List.getLast?_cons]

theorem size_code_after (b : ModuleBuilder) (calls : List Call) :
    (b.after calls).code.size = b.code.size + (emitted calls).length := by
  induction calls generalizing b with
  | nil => rfl
  | cons c rest ih =>
    change ((b.apply c).2.after rest).code.size = _
    rw [ih, size_code_apply, emitted, emitted, List.flatMap_cons, List.length_append, Nat.add_assoc]

/-- The last call that lets the body of a script start finds `n` instructions in place. -/
def LastPlaced (calls : List Call) (id : ScriptId) (name : String) (n : Nat) : Prop :=
  ∃ before c rest, calls = before ++ c :: rest ∧ c.Places id name ∧ n = (emitted before).length ∧
    ∀ c' ∈ rest, ¬c'.Places id name

def targets (calls : List Call) (place : Nat) : List Offset :=
  (transcript {} calls).filterMap (target? place)

theorem emitted_concat (calls : List Call) (c : Call) :
    emitted (calls ++ [c]) = emitted calls ++ c.instrs := by
  simp [emitted]

theorem after_concat (b : ModuleBuilder) (calls : List Call) (c : Call) :
    b.after (calls ++ [c]) = ((b.after calls).apply c).2 :=
  b.after_append calls [c]

theorem targets_concat (calls : List Call) (c : Call) (place : Nat) :
    targets (calls ++ [c]) place =
      targets calls place ++ (target? place (c, ((after {} calls).apply c).1)).toList := by
  rw [targets, transcript_concat, List.filterMap_append]
  cases led : target? place (c, ((after {} calls).apply c).1) <;> simp [targets, led]

theorem size_code_start (calls : List Call) :
    (after {} calls).code.size = (emitted calls).length := by
  rw [size_code_after]
  exact Nat.zero_add _

theorem targets_of_length_le {place : Nat} (beyond : (emitted calls).length ≤ place) :
    targets calls place = [] := by
  induction calls using List.reverseRecOn with
  | nil => rfl
  | append_singleton calls c ih =>
    rw [emitted_concat, List.length_append] at beyond
    rw [targets_concat, ih (by omega), List.nil_append]
    obtain ⟨-, untouched⟩ | ⟨place', target, i, jump, rfl, patched, stands, -⟩ :=
      ((after {} calls).apply_change c).code
    · rw [untouched, Option.toList_none]
    · have inside := (Array.getElem?_eq_some_iff.mp stands).1
      rw [size_code_start] at inside
      rw [patched, target?, if_neg (by omega), Option.toList_none]

theorem getElem?_code_after (calls : List Call) (place : Nat) :
    (after {} calls).code[place]? =
      (emitted calls)[place]?.map (·.retarget (targets calls place).getLast?) := by
  induction calls using List.reverseRecOn generalizing place with
  | nil => rfl
  | append_singleton calls c ih =>
    rw [after_concat, emitted_concat, targets_concat]
    obtain ⟨extended, untouched⟩ | ⟨place', target, i, jump, rfl, patched, stands, jumps, set⟩ :=
      ((after {} calls).apply_change c).code
    · rw [untouched, Option.toList_none, List.append_nil, ← Array.getElem?_toList, extended,
        List.getElem?_append, List.getElem?_append, Array.length_toList, size_code_start]
      split
      · rw [Array.getElem?_toList, ih]
      · next beyond =>
        rw [targets_of_length_le (Nat.le_of_not_lt beyond)]
        simp
    · rw [patched, set, Array.getElem?_setIfInBounds, target?]
      have inside := (Array.getElem?_eq_some_iff.mp stands).1
      by_cases here : place' = place
      · subst here
        rw [ih, Option.map_eq_some_iff] at stands
        obtain ⟨original, stands, rfl⟩ := stands
        rw [Instr.withTarget?_retarget] at jumps
        simp [inside, Call.instrs, stands, Instr.retarget_some jumps]
      · simp [here, Call.instrs, ih]

theorem nodup_heads (calls : List Call) : ((after {} calls).heads.map Declaration.name).Nodup := by
  rw [heads_after]
  exact nodup_foldl_intern _ List.nodup_nil

theorem length_heads (b : ModuleBuilder) : b.heads.length = b.scripts.size := by
  simp [heads]

theorem size_scripts_le (b : ModuleBuilder) (calls : List Call) :
    b.scripts.size ≤ (b.after calls).scripts.size := by
  rw [← length_heads, ← length_heads, heads_after]
  exact (prefix_foldl_intern _).length_le

theorem eq_of_name_eq (distinct : (b.heads.map Declaration.name).Nodup) {i j : Nat}
    {s s' : Declaration} (found : b.scripts[i]? = some s) (found' : b.scripts[j]? = some s')
    (same : s.name = s'.name) : i = j := by
  have inside : i < (b.heads.map Declaration.name).length := by
    simpa [heads] using (Array.getElem?_eq_some_iff.mp found).1
  rw [← List.getElem?_inj inside distinct]
  simp [heads, found, found', Declaration.unplaced, same]

theorem index_ofNat {i n : Nat} (inside : i < n) (few : n ≤ 65536) :
    (⟨UInt16.ofNat i⟩ : ScriptId).index = i :=
  UInt16.toNat_ofNat_of_lt' (Nat.lt_of_lt_of_le inside few)

theorem offset_place {id : ScriptId} {i : Nat} {s : Declaration} {o : Offset}
    (found : (b.place id).scripts[i]? = some s) (placed : s.offset = some o) :
    (id.index = i ∧ o = b.position ∧ ∃ s', b.scripts[i]? = some s' ∧ s'.name = s.name) ∨
      id.index ≠ i ∧ b.scripts[i]? = some s := by
  rw [place, Array.getElem?_modify] at found
  split at found
  · next here =>
    obtain ⟨s', stands, rfl⟩ := Option.map_eq_some_iff.mp found
    exact .inl ⟨here, (Option.some_inj.mp placed).symm, s', stands, rfl⟩
  · next elsewhere => exact .inr ⟨elsewhere, found⟩

theorem Change.offset {r : Answer × ModuleBuilder} (change : b.Change c r)
    (distinct : (r.2.heads.map Declaration.name).Nodup) (few : r.2.scripts.size ≤ 65536) {i : Nat}
    {s : Declaration} {o : Offset} (found : r.2.scripts[i]? = some s) (placed : s.offset = some o) :
    (c.Places ⟨UInt16.ofNat i⟩ s.name ∧ o = b.position) ∨
      ¬c.Places ⟨UInt16.ofNat i⟩ s.name ∧
        ∃ s', b.scripts[i]? = some s' ∧ s'.name = s.name ∧ s'.offset = some o := by
  have inside := (Array.getElem?_eq_some_iff.mp found).1
  have index := index_ofNat inside few
  -- What has just been declared has no body yet.
  have known {scripts : Array Declaration} {name : String} {params locals : UInt16}
      (interned : scripts.toList =
        intern Declaration.name b.scripts.toList { name, params, locals })
      (found : scripts[i]? = some s) : b.scripts[i]? = some s := by
    rw [← Array.getElem?_toList, interned] at found
    obtain found | rfl := getElem?_intern found
    · simpa using found
    · cases placed
  cases change with
  | declare interned => exact .inr ⟨id, s, known interned found, rfl, placed⟩
  | define declared =>
    obtain ⟨rfl, rfl, s', found, named⟩ | ⟨elsewhere, found⟩ := offset_place found placed
    · exact .inl ⟨by simp [Call.Places, ScriptId.index], rfl⟩
    · refine .inr ⟨?_, s, found, rfl, placed⟩
      rintro rfl
      exact elsewhere index
  | undeclared undeclared =>
    refine .inr ⟨?_, s, found, rfl, placed⟩
    rintro rfl
    rw [index] at undeclared
    exact absurd inside (Nat.not_lt.mpr undeclared)
  | @beginScript name params locals j s' scripts interned stands named =>
    have index' : (⟨UInt16.ofNat j⟩ : ScriptId).index = j :=
      index_ofNat (Array.getElem?_eq_some_iff.mp stands).1 (by simpa [place] using few)
    rw [heads_place] at distinct
    obtain ⟨here, rfl, s'', found, same⟩ | ⟨elsewhere, found⟩ := offset_place found placed
    · rw [index'] at here
      subst here
      cases stands.symm.trans found
      exact .inl ⟨named.symm.trans same, rfl⟩
    · rw [index'] at elsewhere
      refine .inr ⟨?_, s, known interned found, rfl, placed⟩
      intro places
      exact elsewhere (eq_of_name_eq distinct stands found (named.trans places))
  | _ => exact .inr ⟨id, s, found, rfl, placed⟩

theorem lastPlaced_of_offset (short : (emitted calls).length < UInt32.size)
    (few : (after {} calls).scripts.size ≤ 65536) {i : Nat} {s : Declaration} {o : Offset}
    (found : (after {} calls).scripts[i]? = some s) (placed : s.offset = some o) :
    LastPlaced calls ⟨UInt16.ofNat i⟩ s.name o.toNat := by
  induction calls using List.reverseRecOn generalizing s with
  | nil => cases found
  | append_singleton calls c ih =>
    have distinct := nodup_heads (calls ++ [c])
    rw [after_concat] at few found distinct
    have fewer := Nat.le_trans (size_scripts_le (after {} calls) [c]) few
    rw [emitted_concat, List.length_append] at short
    have shorter : (emitted calls).length < UInt32.size := by omega
    obtain ⟨places, rfl⟩ | ⟨other, s', found, named, placed⟩ :=
      ((after {} calls).apply_change c).offset distinct few found placed
    · refine ⟨calls, c, [], rfl, places, ?_, by simp⟩
      rw [position, size_code_start, UInt32.toNat_ofNat_of_lt' shorter]
    · obtain ⟨before, c', rest, rfl, places, length, last⟩ := ih shorter fewer found placed
      refine ⟨before, c', rest ++ [c], by simp, named ▸ places, length, ?_⟩
      rw [named] at last
      simpa [or_imp, forall_and] using ⟨last, other⟩

end ModuleBuilder

end UnitScript
