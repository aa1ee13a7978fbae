import UnitScript.Proofs.Interpreter.Run

namespace UnitScript

def Thread.AtEntry (m : Module) (t : Thread) : Prop :=
  ∃ script entry args mask, m.script? script = some entry ∧
    t = .start t.id script entry args mask

namespace Deed

def started? : Deed → Option Thread
  | .start t => some t
  | _ => .none

def spares (t : Thread) : Deed → Bool
  | .signal bits => !t.intercepts bits
  | _ => true

theorem started?_eq_some_iff {d : Deed} {t : Thread} : d.started? = some t ↔ d = .start t := by
  cases d <;> simp [started?]

def born (ds : List Deed) : List Thread := ds.filterMap started?

def survives (ds : List Deed) (t : Thread) : Bool := ds.all (spares t)

def alive : List Deed → List Thread
  | [] => []
  | d :: ds => (d.started?.filter (survives ds)).toList ++ alive ds

def perished : List Deed → List Thread
  | [] => []
  | d :: ds => (d.started?.filter (!survives ds ·)).toList ++ perished ds

theorem survives_append (ds ds' : List Deed) (t : Thread) :
    survives (ds ++ ds') t = (survives ds t && survives ds' t) := by
  simp [survives]

theorem born_append (ds ds' : List Deed) : born (ds ++ ds') = born ds ++ born ds' := by
  simp [born]

theorem alive_append (ds ds' : List Deed) :
    alive (ds ++ ds') = (alive ds).filter (survives ds') ++ alive ds' := by
  induction ds with
  | nil => rfl
  | cons d ds ih =>
    rw [List.cons_append, alive, alive, ih, List.filter_append, List.append_assoc]
    refine congrArg (· ++ _) ?_
    cases d.started? with
    | none => rfl
    | some t =>
      simp only [Option.filter_some, survives_append]
      cases survives ds t <;> cases after : survives ds' t <;> simp [after]

theorem alive_append_perished_perm (ds : List Deed) :
    (alive ds ++ perished ds).Perm (born ds) := by
  induction ds with
  | nil => exact .refl _
  | cons d ds ih =>
    cases h : d.started? with
    | none => simpa [alive, perished, born, h] using ih
    | some t =>
      cases survived : survives ds t with
      | true => simpa [alive, perished, born, h, survived, Option.filter_some] using ih
      | false =>
        simp only [alive, perished, born, h, survived, List.filterMap_cons, Option.filter_some]
        exact List.perm_middle.trans (ih.cons t)

theorem mem_born_of_mem_alive {ds : List Deed} {t : Thread} (h : t ∈ alive ds) : t ∈ born ds :=
  (alive_append_perished_perm ds).subset (List.mem_append_left _ h)

def Numbered (count : Nat) (ds : List Deed) : Prop :=
  count + (born ds).length < UInt64.size - 1

theorem Numbered.of_append {count : Nat} {ds ds' : List Deed} (h : Numbered count (ds ++ ds')) :
    Numbered count ds := by
  rw [Numbered, born_append, List.length_append] at h
  rw [Numbered]
  omega

theorem Numbered.lt {count : Nat} {ds : List Deed} (h : Numbered count ds) :
    count < UInt64.size - 1 :=
  Nat.lt_of_le_of_lt (Nat.le_add_right ..) h

end Deed

namespace Environment

variable {e e' : Environment} {d : Deed} {ds : List Deed}

def Fresh (e : Environment) : Prop :=
  ∀ id t, e.thread? id = some t → id < e.nextThread

structure Evolves (e : Environment) (ds : List Deed) (e' : Environment) : Prop where
  module_eq : e'.module = e.module
  nextThread : e'.nextThread.toNat = e.nextThread.toNat + (Deed.born ds).length
  ids : (Deed.born ds).map (·.id.toNat) =
    List.range' e.nextThread.toNat (Deed.born ds).length
  atEntry : ∀ t ∈ Deed.born ds, t.AtEntry e.module
  thread?_iff : ∀ id t, e'.thread? id = some t ↔
    e.thread? id = some t ∧ Deed.survives ds t = true ∨ t ∈ Deed.alive ds ∧ t.id = id

theorem Evolves.refl (e : Environment) : e.Evolves [] e where
  module_eq := rfl
  nextThread := rfl
  ids := rfl
  atEntry := nofun
  thread?_iff := by simp [Deed.survives, Deed.alive]

theorem thread?_carryOut_iff (vacant : ∀ t, d.started? = some t → e.thread? t.id = none)
    {id : ThreadId} {t : Thread} :
    (e.carryOut d).thread? id = some t ↔
      e.thread? id = some t ∧ d.spares t = true ∨ d.started? = some t ∧ t.id = id := by
  cases d with
  | start started =>
    have vacant := vacant started rfl
    simp only [carryOut, thread?_enroll, Deed.spares, Deed.started?, and_true, Option.some.injEq]
    split
    · next same =>
      cases same
      simp only [vacant, Option.some.injEq, reduceCtorEq, false_or]
      exact ⟨fun h => ⟨h, h ▸ rfl⟩, And.left⟩
    · next other =>
      constructor
      · exact .inl
      · rintro (h | ⟨rfl, same⟩)
        · exact h
        · exact absurd same other
  | signal bits => simp [carryOut, Deed.spares, Deed.started?, Option.filter_eq_some_iff]
  | _ =>
    change e.thread? id = some t ↔ _
    simp [Deed.spares, Deed.started?]

theorem toNat_nextThread_carryOut
    (room : e.nextThread.toNat + (Deed.born [d]).length < UInt64.size) :
    (e.carryOut d).nextThread.toNat = e.nextThread.toNat + (Deed.born [d]).length := by
  cases d with
  | start t =>
    change (e.nextThread + 1).toNat = e.nextThread.toNat + 1
    rw [UInt64.toNat_add]
    exact Nat.mod_eq_of_lt room
  | _ => rfl

theorem Fresh.vacant (fresh : e.Fresh) : e.thread? e.nextThread = none := by
  cases h : e.thread? e.nextThread with
  | none => rfl
  | some t => exact absurd (fresh _ t h) (UInt64.lt_irrefl _)

theorem Fresh.carryOut (fresh : e.Fresh)
    (started : ∀ t, d.started? = some t → t.id = e.nextThread)
    (room : e.nextThread.toNat + (Deed.born [d]).length < UInt64.size) : (e.carryOut d).Fresh := by
  intro id t found
  rw [UInt64.lt_iff_toNat_lt, toNat_nextThread_carryOut room]
  have vacant (t : Thread) (h : d.started? = some t) : e.thread? t.id = none := by
    rw [started t h, fresh.vacant]
  obtain ⟨found, -⟩ | ⟨h, rfl⟩ := (thread?_carryOut_iff vacant).mp found
  · have := UInt64.lt_iff_toNat_lt.mp (fresh id t found)
    omega
  · rw [started t h]
    simp [Deed.born, h]

theorem Evolves.cons (fresh : e.Fresh)
    (started : ∀ t, d.started? = some t → t.id = e.nextThread)
    (atEntry : ∀ t, d.started? = some t → t.AtEntry e.module)
    (room : e.nextThread.toNat + (Deed.born [d]).length < UInt64.size)
    (h : (e.carryOut d).Evolves ds e') : e.Evolves (d :: ds) e' := by
  have split : Deed.born (d :: ds) = Deed.born [d] ++ Deed.born ds := Deed.born_append [d] ds
  have next := toNat_nextThread_carryOut room
  have vacant (t : Thread) (h : d.started? = some t) : e.thread? t.id = none := by
    rw [started t h, fresh.vacant]
  refine ⟨?_, ?_, ?_, ?_, ?_⟩
  · rw [h.module_eq, module_carryOut]
  · rw [h.nextThread, next, split, List.length_append, Nat.add_assoc]
  · rw [split, List.map_append, h.ids, next, List.length_append, ← List.range'_append_1]
    congr 1
    cases hd : d.started? with
    | none => simp [Deed.born, hd]
    | some t => simp [Deed.born, hd, started t hd]
  · intro t ht
    rw [split, List.mem_append] at ht
    cases ht with
    | inl here => exact atEntry t (by simpa [Deed.born] using here)
    | inr later => exact module_carryOut e d ▸ h.atEntry t later
  · intro id t
    rw [h.thread?_iff, thread?_carryOut_iff vacant]
    -- Both sides come down to the same three cases: there before, started by `d`, started later.
    simp only [Deed.survives, Deed.alive, List.all_cons, Bool.and_eq_true, List.mem_append,
      Option.mem_toList, Option.filter_eq_some_iff]
    grind

theorem Evolves.id_bounds (h : e.Evolves ds e') {t : Thread} (ht : t ∈ Deed.born ds) :
    e.nextThread.toNat ≤ t.id.toNat ∧ t.id.toNat < e'.nextThread.toNat := by
  have member := List.mem_map_of_mem (f := fun t : Thread => t.id.toNat) ht
  rw [h.ids, List.mem_range'_1] at member
  rw [h.nextThread]
  exact member

theorem Fresh.evolves (fresh : e.Fresh) (h : e.Evolves ds e') : e'.Fresh := by
  intro id t found
  rw [UInt64.lt_iff_toNat_lt]
  obtain ⟨found, -⟩ | ⟨ht, rfl⟩ := (h.thread?_iff id t).mp found
  · have below := UInt64.lt_iff_toNat_lt.mp (fresh id t found)
    rw [h.nextThread]
    omega
  · exact (h.id_bounds (Deed.mem_born_of_mem_alive ht)).2

end Environment

namespace Machine

variable {σ : Type} [Host σ]

def deeds (config : Config) (now : Tick) : Nat → Machine σ → List Deed
  | 0, _ => []
  | budget + 1, m =>
    match m.step config now with
    | .error _ => []
    | .ok s =>
      s.deed ::
        match s.stop with
        | none => deeds config now budget (perform s.thread m.environment m.host s.deed)
        | some _ => []

omit [Host σ] in
@[simp] theorem environment_settle (m : Machine σ) (halt : Halt) :
    (m.settle halt).environment = m.environment := by
  cases halt <;> rfl

omit [Host σ] in
@[simp] theorem host_settle (m : Machine σ) (halt : Halt) : (m.settle halt).host = m.host := by
  cases halt <;> rfl

/-- A run changes its environment by its deeds and by nothing else. -/
theorem run_evolves (config : Config) (now : Tick) (budget : Nat) (m : Machine σ)
    (fresh : m.environment.Fresh)
    (room : m.environment.nextThread.toNat + (Deed.born (deeds config now budget m)).length
      < UInt64.size) :
    m.environment.Evolves (deeds config now budget m) (run config now budget m).2.environment := by
  induction budget generalizing m with
  | zero => exact .refl _
  | succ budget ih =>
    simp only [deeds, run] at room ⊢
    cases worked : m.step config now with
    | error kind => exact .refl _
    | ok s =>
      simp only [worked] at room ⊢
      have started (t : Thread) (h : s.deed.started? = some t) :
          t.id = m.environment.nextThread ∧ t.AtEntry m.environment.module := by
        have follows := (m.step_follows config now).of_ok worked
        obtain ⟨script, entry, args, found, rfl⟩ :=
          follows.started t (Deed.started?_eq_some_iff.mp h)
        exact ⟨rfl, script, entry, args, _, found, rfl⟩
      rw [← List.singleton_append, Deed.born_append, List.length_append] at room
      have roomHere :
          m.environment.nextThread.toNat + (Deed.born [s.deed]).length < UInt64.size := by
        omega
      refine .cons fresh (fun t h => (started t h).1) (fun t h => (started t h).2) roomHere ?_
      cases stop : s.stop with
      | none =>
        simp only [stop] at room ⊢
        rw [← environment_perform s.thread m.environment m.host]
        refine ih _ ?_ ?_
        · rw [environment_perform]
          exact fresh.carryOut (fun t h => (started t h).1) roomHere
        · rw [environment_perform, Environment.toNat_nextThread_carryOut roomHere]
          omega
      | some halt =>
        simp only [environment_settle, environment_perform]
        exact .refl _

end Machine

end UnitScript
