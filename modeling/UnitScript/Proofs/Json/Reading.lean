import Mathlib.Data.List.Forall2
import UnitScript.Json.Basic

namespace UnitScript

namespace Json

section Numbers

variable {v : Json}

theorem natBelow?_eq_some_iff {bound n : Nat} :
    v.natBelow? bound = some n ↔ v = .int n ∧ n < bound := by
  unfold natBelow?
  split
  · next m =>
    simp only [Option.ite_none_right_eq_some, Option.some.injEq, Json.int.injEq,
      Int.ofNat_eq_natCast]
    omega
  · next other =>
    constructor
    · intro h
      cases h
    · rintro ⟨rfl, -⟩
      exact (other n rfl).elim

theorem map_natBelow?_eq_some_iff {α : Type} {bound : Nat} {ofNat : Nat → α} {toNat : α → Nat}
    {a : α} (small : toNat a < bound) (ofNat_toNat : ofNat (toNat a) = a)
    (toNat_ofNat : ∀ n < bound, toNat (ofNat n) = n) :
    (v.natBelow? bound).map ofNat = some a ↔ v = .int (toNat a) := by
  simp only [Option.map_eq_some_iff, natBelow?_eq_some_iff]
  constructor
  · rintro ⟨n, ⟨rfl, inside⟩, rfl⟩
    rw [toNat_ofNat n inside]
  · rintro rfl
    exact ⟨toNat a, ⟨rfl, small⟩, ofNat_toNat⟩

theorem uint8?_eq_some_iff {n : UInt8} : v.uint8? = some n ↔ v = .int n.toNat :=
  map_natBelow?_eq_some_iff n.toNat_lt UInt8.ofNat_toNat fun _ => UInt8.toNat_ofNat_of_lt'

theorem uint16?_eq_some_iff {n : UInt16} : v.uint16? = some n ↔ v = .int n.toNat :=
  map_natBelow?_eq_some_iff n.toNat_lt UInt16.ofNat_toNat fun _ => UInt16.toNat_ofNat_of_lt'

theorem uint32?_eq_some_iff {n : UInt32} : v.uint32? = some n ↔ v = .int n.toNat :=
  map_natBelow?_eq_some_iff n.toNat_lt UInt32.ofNat_toNat fun _ => UInt32.toNat_ofNat_of_lt'

theorem int32?_eq_some_iff {n : Int32} : v.int32? = some n ↔ v = .int n.toInt := by
  constructor
  · intro h
    unfold int32? at h
    split at h
    · split at h
      · next m range =>
        cases h
        rw [Int32.toInt_ofInt_of_le range.1 range.2]
      · cases h
    · cases h
  · rintro rfl
    exact int32?_ofInt32 n

theorem str?_eq_some_iff {text : String} : v.str? = some text ↔ v = .str text := by
  cases v <;> simp [str?]

theorem items?_eq_some_iff {items : List Json} : v.items? = some items ↔ v = .arr items := by
  cases v <;> simp [items?]

end Numbers

theorem mapM_eq_some_iff {α β : Type} {read : α → Option β} {items : List α} {values : List β} :
    items.mapM read = some values ↔
      List.Forall₂ (fun b a => read a = some b) values items := by
  induction items generalizing values with
  | nil => simp [eq_comm]
  | cons a rest ih =>
    simp only [List.mapM_cons, Option.bind_eq_bind, Option.pure_def, Option.bind_eq_some_iff,
      Option.some.injEq, ih, List.forall₂_cons_right_iff]
    constructor
    · rintro ⟨b, read, bs, reads, rfl⟩
      exact ⟨b, bs, read, reads, rfl⟩
    · rintro ⟨b, bs, read, reads, rfl⟩
      exact ⟨b, read, bs, reads, rfl⟩

theorem list?_eq_some_iff {α : Type} {read : Json → Option α} {v : Json} {values : List α} :
    list? read v = some values ↔
      ∃ items, v = .arr items ∧ List.Forall₂ (fun a item => read item = some a) values items := by
  simp only [list?, Option.bind_eq_some_iff, items?_eq_some_iff, mapM_eq_some_iff]

inductive Names (reader : Reader) : Json → String → Json → Prop
  | bare (name : String) : Names reader (.str name) name .null
  | only (name : String) (below : Json) : Names reader (.obj [(name, below)]) name below
  | first (name : String) (below : Json) (rest : List (String × Json))
    (h : reader.otherKeys = true) : Names reader (.obj ((name, below) :: rest)) name below

theorem alternative?_eq_some_iff {reader : Reader} {v below : Json} {name : String} :
    v.alternative? reader = some (name, below) ↔ Names reader v name below := by
  constructor
  · intro h
    cases v with
    | str text =>
      cases h
      exact .bare name
    | obj fields =>
      match fields, h with
      | [_], rfl => exact .only name below
      | field :: other :: rest, h =>
        obtain ⟨allowed, same⟩ := Option.ite_none_right_eq_some.mp h
        cases same
        exact .first name below (other :: rest) allowed
    | _ => cases h
  · intro h
    cases h with
    | bare => rfl
    | only => rfl
    | first _ _ rest allowed =>
      cases rest with
      | nil => rfl
      | cons => exact if_pos allowed

theorem tag?_eq_some_iff {reader : Reader} {v : Json} {name : String} :
    v.tag? reader = some name ↔ Names reader v name .null := by
  rw [← alternative?_eq_some_iff, tag?]
  split
  · next found => simp [found]
  · next other =>
    constructor
    · intro h
      cases h
    · intro h
      exact (other name h).elim

section Members

variable {α : Type} {fields : List (String × Json)} {key : String} {read : Json → Option α} {a : α}

theorem required_eq_some_iff :
    required fields key read = some a ↔ ∃ v, fields.lookup key = some v ∧ read v = some a :=
  Option.bind_eq_some_iff

theorem optional_eq_some_iff {missing : α} :
    optional fields key missing read = some a ↔
      (∃ v, fields.lookup key = some v ∧ read v = some a) ∨
        fields.lookup key = none ∧ a = missing := by
  unfold optional
  split
  · next h => simp [h, eq_comm]
  · next h => simp [h]

end Members

def Single (keys : List String) (members : List (String × Json)) : Prop :=
  ∀ key ∈ keys, members.countP (·.1 = key) ≤ 1

/-- The value is a record with these members: it names its fields, or lists them in their order. -/
inductive IsRecord (listed surplus : Bool) (keys : List String) :
    Json → List (String × Json) → Prop
  | named {members : List (String × Json)} (single : Single keys members) :
    IsRecord listed surplus keys (.obj members) members
  | listed {items : List Json} (allowed : listed = true)
    (fits : surplus = true ∨ items.length ≤ keys.length) :
    IsRecord listed surplus keys (.arr items) (keys.zip items)

theorem record?_eq_some_iff {listed surplus : Bool} {keys : List String} {v : Json}
    {members : List (String × Json)} :
    v.record? listed surplus keys = some members ↔ IsRecord listed surplus keys v members := by
  constructor
  · intro h
    cases v with
    | obj fields =>
      obtain ⟨single, same⟩ := Option.ite_none_right_eq_some.mp h
      cases same
      exact .named single
    | arr items =>
      obtain ⟨⟨allowed, fits⟩, same⟩ := Option.ite_none_right_eq_some.mp h
      cases same
      exact .listed allowed fits
    | _ => cases h
  · intro h
    cases h with
    | named single => exact if_pos single
    | listed allowed fits => exact if_pos ⟨allowed, fits⟩

theorem IsRecord.unique {listed surplus : Bool} {keys : List String} {v : Json}
    {members members' : List (String × Json)} (h : IsRecord listed surplus keys v members)
    (h' : IsRecord listed surplus keys v members') : members = members' :=
  Option.some.inj ((record?_eq_some_iff.mpr h).symm.trans (record?_eq_some_iff.mpr h'))

@[simp] theorem not_isRecord_null {listed surplus : Bool} {keys : List String}
    {members : List (String × Json)} : ¬IsRecord listed surplus keys .null members := by
  intro h
  cases h

theorem Single.of_nodup {members : List (String × Json)} (distinct : (members.map Prod.fst).Nodup)
    (keys : List String) : Single keys members := by
  intro key _
  calc members.countP (·.1 = key)
      = (members.map Prod.fst).count key := by rw [List.count, List.countP_map]; rfl
    _ ≤ 1 := List.nodup_iff_count.mp distinct key

theorem record?_obj {listed surplus : Bool} {keys : List String} {members : List (String × Json)}
    (single : Single keys members) : (obj members).record? listed surplus keys = some members :=
  record?_eq_some_iff.mpr (.named single)

/-- Put a member in whose key is not `known`, or leave one out that holds its default. -/
inductive MemberEdit (known : List String) (defaults : List (String × Json)) :
    List (String × Json) → List (String × Json) → Prop
  | add {before after : List (String × Json)} {key : String} (v : Json) (unknown : key ∉ known) :
    MemberEdit known defaults (before ++ after) (before ++ (key, v) :: after)
  | leaveOut {before after : List (String × Json)} {key : String} {v : Json}
    (default : (key, v) ∈ defaults) :
    MemberEdit known defaults (before ++ (key, v) :: after) (before ++ after)

namespace MemberEdit

variable {known : List String} {defaults members members' : List (String × Json)} {key : String}

theorem single (edit : MemberEdit known defaults members members') (h : Single known members) :
    Single known members' := by
  intro key asked
  have once := h key asked
  cases edit with
  | @add before after other v unknown =>
    have differs : other ≠ key := by
      rintro rfl
      exact unknown asked
    simpa [List.countP_append, List.countP_cons, differs] using once
  | leaveOut =>
    rw [List.countP_append, List.countP_cons] at once
    rw [List.countP_append]
    omega

theorem lookup_eq (edit : MemberEdit known defaults members members') (h : Single known members)
    (asked : key ∈ known) :
    members'.lookup key = members.lookup key ∨
      members'.lookup key = none ∧ ∃ v, members.lookup key = some v ∧ (key, v) ∈ defaults := by
  cases edit with
  | @add before after other v unknown =>
    have differs : (key == other) = false := by
      rw [beq_eq_false_iff_ne]
      rintro rfl
      exact unknown asked
    simp [List.lookup_append, List.lookup_cons, differs]
  | @leaveOut before after other v default =>
    by_cases same : key = other
    · subst same
      -- The member that goes was the only one of its key.
      have alone : (before ++ after).countP (·.1 = key) = 0 := by
        have once := h key asked
        rw [List.countP_append, List.countP_cons_of_pos (by simp)] at once
        rw [List.countP_append]
        omega
      have absent : (before ++ after).lookup key = none := by
        rw [List.lookup_eq_none_iff]
        intro member held
        rw [bne_iff_ne]
        intro same
        exact List.countP_eq_zero.mp alone member held (decide_eq_true same.symm)
      have earlier : before.lookup key = none := by
        rw [List.lookup_append, Option.or_eq_none_iff] at absent
        exact absent.1
      exact .inr ⟨absent, v, by simp [List.lookup_append, earlier], default⟩
    · have differs : (key == other) = false := beq_eq_false_iff_ne.mpr same
      simp [List.lookup_append, List.lookup_cons, differs]

theorem required_eq {α : Type} {read : Json → Option α}
    (edit : MemberEdit known defaults members members') (h : Single known members) (key : String)
    (asked : key ∈ known) (never : ∀ v, (key, v) ∉ defaults) :
    required members' key read = required members key read := by
  rcases edit.lookup_eq h asked with same | ⟨-, v, -, default⟩
  · rw [required, same, required]
  · exact absurd default (never v)

theorem optional_eq {α : Type} {read : Json → Option α} {missing : α}
    (edit : MemberEdit known defaults members members') (h : Single known members) (key : String)
    (asked : key ∈ known) (stands : ∀ v, (key, v) ∈ defaults → read v = some missing) :
    optional members' key missing read = optional members key missing read := by
  rcases edit.lookup_eq h asked with same | ⟨absent, v, held, default⟩
  · rw [optional, same, optional]
  · simp [optional, absent, held, stands v default]

end MemberEdit

/-- A change of documents after which `read` still reads what it read before. -/
def Unnoticed {α : Type} (read : Json → Option α) (edit : Json → Json → Prop) : Prop :=
  ∀ v v', edit v v' → ∀ a, read v = some a → read v' = some a

inductive ItemEdit (edit : Json → Json → Prop) : Json → Json → Prop
  | item {before after : List Json} {v v' : Json} (h : edit v v') :
    ItemEdit edit (.arr (before ++ v :: after)) (.arr (before ++ v' :: after))

theorem Unnoticed.items {α : Type} {read : Json → Option α} {edit : Json → Json → Prop}
    (unnoticed : Unnoticed read edit) : Unnoticed (list? read) (ItemEdit edit) := by
  rintro _ _ ⟨h⟩ values
  simp only [list?, items?, Option.bind_some, List.mapM_append, List.mapM_cons,
    Option.bind_eq_bind, Option.pure_def, Option.bind_eq_some_iff]
  rintro ⟨values₁, read₁, rest, ⟨a, now, values₂, read₂, cons⟩, same⟩
  exact ⟨values₁, read₁, rest, ⟨a, unnoticed _ _ h a now, values₂, read₂, cons⟩, same⟩

inductive ValueEdit (key : String) (edit : Json → Json → Prop) :
    List (String × Json) → List (String × Json) → Prop
  | value {before after : List (String × Json)} {v v' : Json} (h : edit v v') :
    ValueEdit key edit (before ++ (key, v) :: after) (before ++ (key, v') :: after)

namespace ValueEdit

variable {key : String} {edit : Json → Json → Prop} {members members' : List (String × Json)}

theorem single {keys : List String} (h : ValueEdit key edit members members')
    (single : Single keys members) : Single keys members' := by
  cases h with
  | value =>
    intro key asked
    simpa [List.countP_append, List.countP_cons] using single key asked

theorem lookup_eq (h : ValueEdit key edit members members') (asked : String) :
    members'.lookup asked = members.lookup asked ∨
      asked = key ∧ ∃ v v', edit v v' ∧ members.lookup asked = some v ∧
        members'.lookup asked = some v' := by
  cases h with
  | @value before after v v' h =>
    by_cases same : asked = key
    · subst same
      cases earlier : before.lookup asked with
      | none => exact .inr ⟨rfl, v, v', h, by simp [List.lookup_append, earlier]⟩
      | some w => simp [List.lookup_append, earlier]
    · have differs : (asked == key) = false := beq_eq_false_iff_ne.mpr same
      simp [List.lookup_append, List.lookup_cons, differs]

theorem required_eq_some {α : Type} {read : Json → Option α} {a : α}
    (h : ValueEdit key edit members members') (asked : String)
    (unnoticed : asked = key → Unnoticed read edit) (held : required members asked read = some a) :
    required members' asked read = some a := by
  obtain ⟨w, there, readable⟩ := required_eq_some_iff.mp held
  rcases h.lookup_eq asked with same | ⟨here, v, v', edited, before, after⟩
  · exact required_eq_some_iff.mpr ⟨w, same.trans there, readable⟩
  · cases there.symm.trans before
    exact required_eq_some_iff.mpr ⟨v', after, unnoticed here w v' edited a readable⟩

theorem optional_eq {α : Type} {read : Json → Option α} {missing : α}
    (h : ValueEdit key edit members members') (asked : String) (other : asked ≠ key) :
    optional members' asked missing read = optional members asked missing read := by
  rcases h.lookup_eq asked with same | ⟨here, -⟩
  · rw [optional, same, optional]
  · exact absurd here other

end ValueEdit

end Json

end UnitScript
