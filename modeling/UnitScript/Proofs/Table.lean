import UnitScript.Table

universe u v w

namespace UnitScript

namespace Table

variable {κ : Type u} {α : Type v} {σ : Type w}

def visits (f : κ → α → σ → α × σ) : List (κ × α) → σ → List (κ × α × σ)
  | [], _ => []
  | (k, a) :: rest, s => (k, a, s) :: visits f rest (f k a s).2

theorem mapEntries_eq_visits (f : κ → α → σ → α × σ) (entries : List (κ × α)) (s : σ) :
    (mapEntries f entries s).1 =
      (visits f entries s).map fun v => (v.1, (f v.1 v.2.1 v.2.2).1) := by
  induction entries generalizing s with
  | nil => rfl
  | cons e rest ih => simp [mapEntries, visits, ih]

@[simp] theorem map_visits (f : κ → α → σ → α × σ) (entries : List (κ × α)) (s : σ) :
    (visits f entries s).map (fun v => (v.1, v.2.1)) = entries := by
  induction entries generalizing s with
  | nil => rfl
  | cons e rest ih => simp [visits, ih]

theorem keys_visits (f : κ → α → σ → α × σ) (entries : List (κ × α)) (s : σ) :
    (visits f entries s).map Prod.fst = entries.map Prod.fst := by
  induction entries generalizing s with
  | nil => rfl
  | cons e rest ih => simp [visits, ih]

theorem mapEntries_congr {f f' : κ → α → σ → α × σ} {entries : List (κ × α)} {s : σ}
    (same : ∀ v ∈ visits f entries s, f' v.1 v.2.1 v.2.2 = f v.1 v.2.1 v.2.2) :
    mapEntries f' entries s = mapEntries f entries s := by
  induction entries generalizing s with
  | nil => rfl
  | cons e rest ih =>
    rw [visits, List.forall_mem_cons] at same
    have here : f' e.1 e.2 s = f e.1 e.2 s := same.1
    simp only [mapEntries, here, ih same.2]

theorem filter_eq_singleton [DecidableEq κ] {entries : List (κ × α)} {e : κ × α}
    (distinct : (entries.map Prod.fst).Nodup) (member : e ∈ entries) :
    entries.filter (·.1 = e.1) = [e] := by
  induction entries with
  | nil => cases member
  | cons first rest ih =>
    obtain ⟨fresh, distinct⟩ := List.nodup_cons.mp distinct
    obtain rfl | member := List.mem_cons.mp member
    · have others : rest.filter (·.1 = e.1) = [] := by
        rw [List.filter_eq_nil_iff]
        intro other ho same
        exact fresh (List.mem_map.mpr ⟨other, ho, by simpa using same⟩)
      simp [others]
    · have other : first.1 ≠ e.1 := fun same => fresh (same ▸ List.mem_map_of_mem member)
      rw [List.filter_cons_of_neg (by simpa using other), ih distinct member]

variable [Ord κ] [Std.TransOrd κ] [Std.LawfulEqOrd κ]

omit [Std.LawfulEqOrd κ] in
theorem nodup_keys_visits (f : κ → α → σ → α × σ) (t : Table κ α) (s : σ) :
    ((visits f t.toList s).map Prod.fst).Nodup := by
  rw [keys_visits, Std.ExtTreeMap.map_fst_toList_eq_keys]
  exact Std.ExtTreeMap.nodup_keys

theorem getElem?_of_mem_visits {f : κ → α → σ → α × σ} {t : Table κ α} {s : σ} {v : κ × α × σ}
    (member : v ∈ visits f t.toList s) : t[v.1]? = some v.2.1 := by
  rw [← Std.ExtTreeMap.mem_toList_iff_getElem?_eq_some, ← map_visits f t.toList s]
  exact List.mem_map_of_mem member

variable [DecidableEq κ]

theorem getElem?_mapAccum_iff {f : κ → α → σ → α × σ} {t : Table κ α} {s : σ} {k : κ} {b : α} :
    (t.mapAccum f s).1[k]? = some b ↔
      ∃ a s', (k, a, s') ∈ visits f t.toList s ∧ b = (f k a s').1 := by
  rw [← Std.ExtTreeMap.mem_toList_iff_getElem?_eq_some, toList_mapAccum, mapEntries_eq_visits,
    List.mem_map]
  constructor
  · rintro ⟨⟨k, a, s'⟩, member, h⟩
    cases h
    exact ⟨a, s', member, rfl⟩
  · rintro ⟨a, s', member, rfl⟩
    exact ⟨(k, a, s'), member, rfl⟩

omit [DecidableEq κ] in
theorem insert_of_getElem? {t : Table κ α} {k : κ} {a : α} (there : t[k]? = some a) :
    t.insert k a = t := by
  apply Std.ExtTreeMap.ext_getElem?
  intro j
  rw [Std.ExtTreeMap.getElem?_insert]
  split
  · next same => rw [← Std.LawfulEqCmp.eq_of_compare same, there]
  · rfl

omit [DecidableEq κ] in
theorem erase_of_getElem? {t : Table κ α} {k : κ} (missing : t[k]? = none) : t.erase k = t := by
  apply Std.ExtTreeMap.ext_getElem?
  intro j
  rw [Std.ExtTreeMap.getElem?_erase]
  split
  · next same => rw [← Std.LawfulEqCmp.eq_of_compare same, missing]
  · rfl

theorem toList_insert_of_singleton {t : Table κ α} {k : κ} {a : α} (h : t.toList = [(k, a)])
    (b : α) : (t.insert k b).toList = [(k, b)] := by
  have same : t.insert k b = .ofList [(k, b)] := by
    apply Std.ExtTreeMap.ext_getElem?
    intro j
    rw [Std.ExtTreeMap.ofList_singleton, Std.ExtTreeMap.getElem?_insert,
      Std.ExtTreeMap.getElem?_insert]
    split
    · rfl
    · next other =>
      rw [Std.ExtTreeMap.getElem?_empty, Option.eq_none_iff_forall_ne_some]
      intro c found
      rw [← Std.ExtTreeMap.mem_toList_iff_getElem?_eq_some, h, List.mem_singleton] at found
      cases found
      exact other Std.ReflCmp.compare_self
  rw [same]
  exact toList_ofList (List.pairwise_singleton ..)

end Table

end UnitScript
