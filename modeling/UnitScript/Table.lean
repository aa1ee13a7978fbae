import Std.Data.ExtTreeMap

universe u v w

namespace UnitScript

abbrev Table (κ : Type u) (α : Type v) [Ord κ] := Std.ExtTreeMap κ α

namespace Table

variable {κ : Type u} {α : Type v} {σ : Type w}

def mapEntries (f : κ → α → σ → α × σ) : List (κ × α) → σ → List (κ × α) × σ
  | [], s => ([], s)
  | (k, a) :: rest, s =>
    let (b, s) := f k a s
    let (rest, s) := mapEntries f rest s
    ((k, b) :: rest, s)

@[simp] theorem keys_mapEntries (f : κ → α → σ → α × σ) (entries : List (κ × α)) (s : σ) :
    (mapEntries f entries s).1.map Prod.fst = entries.map Prod.fst := by
  induction entries generalizing s with
  | nil => rfl
  | cons e rest ih => simp [mapEntries, ih]

variable [Ord κ] [Std.TransOrd κ]

def mapAccum (f : κ → α → σ → α × σ) (t : Table κ α) (s : σ) : Table κ α × σ :=
  let (entries, s) := mapEntries f t.toList s
  (.ofList entries, s)

section Lawful

variable [Std.LawfulEqOrd κ] [DecidableEq κ]

theorem mem_of_getElem?_ofList {entries : List (κ × α)} {k : κ} {a : α}
    (distinct : entries.Pairwise fun a b => ¬compare a.1 b.1 = .eq)
    (h : (Std.ExtTreeMap.ofList entries : Table κ α)[k]? = some a) : (k, a) ∈ entries := by
  have hk : k ∈ (Std.ExtTreeMap.ofList entries : Table κ α) := by
    rw [Std.ExtTreeMap.mem_iff_isSome_getElem?, h]
    rfl
  obtain ⟨⟨j, b⟩, hb, rfl⟩ : ∃ e ∈ entries, e.1 = k := by
    simpa [Std.ExtTreeMap.mem_ofList] using hk
  rw [Std.ExtTreeMap.getElem?_ofList_of_mem Std.ReflCmp.compare_self distinct hb] at h
  cases h
  exact hb

theorem toList_ofList {entries : List (κ × α)}
    (h : entries.Pairwise fun a b => compare a.1 b.1 = .lt) :
    (Std.ExtTreeMap.ofList entries : Table κ α).toList = entries := by
  have distinct : entries.Pairwise fun a b => ¬compare a.1 b.1 = .eq :=
    h.imp fun hab => by simp [hab]
  have nodup {l : List (κ × α)} (hl : l.Pairwise fun a b => compare a.1 b.1 = .lt) : l.Nodup :=
    hl.imp fun hab he => by simp [he] at hab
  have ordered := Std.ExtTreeMap.ordered_keys_toList (t := (.ofList entries : Table κ α))
  have perm := (List.perm_ext_iff_of_nodup (nodup ordered) (nodup h)).mpr fun (k, a) => by
    rw [Std.ExtTreeMap.mem_toList_iff_getElem?_eq_some]
    exact ⟨mem_of_getElem?_ofList distinct,
      Std.ExtTreeMap.getElem?_ofList_of_mem Std.ReflCmp.compare_self distinct⟩
  refine perm.eq_of_pairwise (fun a b _ _ hab hba => ?_) ordered h
  exact absurd hba (Std.OrientedCmp.not_lt_of_lt hab)

@[simp] theorem toList_mapAccum (f : κ → α → σ → α × σ) (t : Table κ α) (s : σ) :
    (t.mapAccum f s).1.toList = (mapEntries f t.toList s).1 := by
  refine toList_ofList ?_
  have ordered := Std.ExtTreeMap.ordered_keys (t := t)
  rw [← Std.ExtTreeMap.map_fst_toList_eq_keys, ← keys_mapEntries f t.toList s] at ordered
  exact List.pairwise_map.mp ordered

end Lawful

end Table

end UnitScript
