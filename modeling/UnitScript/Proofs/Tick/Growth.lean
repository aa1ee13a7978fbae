import UnitScript.Proofs.Interpreter.Deeds
import UnitScript.Proofs.Tick.Turn

namespace UnitScript

theorem Thread.AtEntry.isRunnable {m : Module} {t : Thread} (h : t.AtEntry m) :
    t.isRunnable = true := by
  obtain ⟨script, entry, args, mask, -, same⟩ := h
  rw [same]
  rfl

namespace Environment

/-- An environment that has started `count` threads: the live ones are filed under their ids, which
are behind those to come, and all of them can go on. -/
structure Filed (count : Nat) (e : Environment) : Prop where
  nextThread : e.nextThread.toNat = count + 1
  fresh : e.Fresh
  id_eq : ∀ {id t}, e.thread? id = some t → t.id = id
  runnable : ∀ {id t}, e.thread? id = some t → t.isRunnable = true

variable {e e' e'' : Environment} {count : Nat} {ds ds' : List Deed} {id : ThreadId} {t : Thread}

theorem Filed.toNat_le (h : e.Filed count) (member : id ∈ e.threadIds) : id.toNat ≤ count := by
  obtain ⟨t, found⟩ := mem_threadIds.mp member
  have below := UInt64.lt_iff_toNat_lt.mp (h.fresh id t found)
  rw [h.nextThread] at below
  omega

theorem filed_create (module : Module) (unit : UnitId) (seed : UInt64) :
    (create module unit seed).Filed 0 := by
  refine ⟨rfl, ?_, ?_, ?_⟩
  · intro id t found
    simp at found
  · intro id t found
    simp at found
  · intro id t found
    simp at found

theorem Filed.of_subset (h : e.Filed count) (nextThread : e'.nextThread = e.nextThread)
    (threads : ∀ {id t}, e'.thread? id = some t → e.thread? id = some t) : e'.Filed count where
  nextThread := by rw [nextThread, h.nextThread]
  fresh := by
    intro id t found
    rw [nextThread]
    exact h.fresh id t (threads found)
  id_eq found := h.id_eq (threads found)
  runnable found := h.runnable (threads found)

theorem Filed.detach (h : e.Filed count) (id : ThreadId) : (e.detach id).Filed count :=
  h.of_subset rfl thread?_of_detach

theorem Filed.sendSignal (h : e.Filed count) (signal : UInt32) :
    (e.sendSignal signal).Filed count :=
  h.of_subset rfl thread?_of_sendSignal

theorem Filed.restore (h : e.Filed count) (known : t.id < e.nextThread)
    (runnable : t.isRunnable = true) : (e.restore t).Filed count := by
  have threads (id : ThreadId) :
      (e.restore t).thread? id = if t.id = id then some t else e.thread? id :=
    thread?_restore e t
  refine ⟨h.nextThread, ?_, ?_, ?_⟩
  · intro id t' ht'
    obtain ⟨rfl, -⟩ | ht' := thread?_of_inserted threads ht'
    · exact known
    · exact h.fresh id t' ht'
  · intro id t' ht'
    obtain ⟨rfl, rfl⟩ | ht' := thread?_of_inserted threads ht'
    · rfl
    · exact h.id_eq ht'
  · intro id t' ht'
    obtain ⟨-, rfl⟩ | ht' := thread?_of_inserted threads ht'
    · exact runnable
    · exact h.runnable ht'

theorem Filed.evolves (h : e.Filed count) (evolves : e.Evolves ds e') :
    e'.Filed (count + (Deed.born ds).length) := by
  refine ⟨?_, h.fresh.evolves evolves, ?_, ?_⟩
  · rw [evolves.nextThread, h.nextThread]
    omega
  · intro id t found
    obtain ⟨found, -⟩ | ⟨-, same⟩ := (evolves.thread?_iff id t).mp found
    · exact h.id_eq found
    · exact same
  · intro id t found
    obtain ⟨found, -⟩ | ⟨ht, -⟩ := (evolves.thread?_iff id t).mp found
    · exact h.runnable found
    · exact (evolves.atEntry t (Deed.mem_born_of_mem_alive ht)).isRunnable

/-- An environment in the course of a tick that began at `e`: the threads started so far are
numbered on, and beside the threads of `e` there are just those of them that no signal has ended. -/
structure Grown (count : Nat) (e : Environment) (ds : List Deed) (e' : Environment) : Prop where
  start : e.Filed count
  filed : e'.Filed (count + (Deed.born ds).length)
  module_eq : e'.module = e.module
  ids : (Deed.born ds).map (·.id.toNat) = List.range' (count + 1) (Deed.born ds).length
  atEntry : ∀ t ∈ Deed.born ds, t.AtEntry e.module
  origin : ∀ {id t}, e'.thread? id = some t → id ∈ e.threadIds ∨ t ∈ Deed.alive ds
  stays : ∀ {t}, t ∈ Deed.alive ds → e'.thread? t.id = some t

theorem Grown.refl (h : e.Filed count) : Grown count e [] e where
  start := h
  filed := h
  module_eq := rfl
  ids := rfl
  atEntry := nofun
  origin found := .inl (mem_threadIds.mpr ⟨_, found⟩)
  stays := nofun

theorem Grown.not_mem_threadIds (h : Grown count e ds e') (ht : t ∈ Deed.born ds) :
    t.id ∉ e.threadIds := by
  intro member
  have below := h.start.toNat_le member
  have above := List.mem_map_of_mem (f := fun t : Thread => t.id.toNat) ht
  rw [h.ids, List.mem_range'_1] at above
  omega

theorem Grown.eq_of_id_eq (h : Grown count e ds e') {t' : Thread} (ht : t ∈ Deed.born ds)
    (ht' : t' ∈ Deed.born ds) (same : t.id = t'.id) : t = t' := by
  have place (i : Nat) (hi : i < (Deed.born ds).length) :
      (Deed.born ds)[i].id.toNat = count + 1 + i := by
    have found : ((Deed.born ds).map (·.id.toNat))[i]? = some (Deed.born ds)[i].id.toNat := by
      simp [hi]
    rw [h.ids, List.getElem?_range' hi, Option.some.injEq] at found
    omega
  obtain ⟨i, hi, rfl⟩ := List.getElem_of_mem ht
  obtain ⟨j, hj, rfl⟩ := List.getElem_of_mem ht'
  have ij : i = j := by
    have left := place i hi
    have right := place j hj
    rw [same] at left
    omega
  subst ij
  rfl

theorem Grown.known (h : Grown count e ds e') (member : id ∈ e.threadIds) :
    id < e'.nextThread := by
  have below := h.start.toNat_le member
  rw [UInt64.lt_iff_toNat_lt, h.filed.nextThread]
  omega

theorem Grown.detach (h : Grown count e ds e') (member : id ∈ e.threadIds) :
    Grown count e ds (e'.detach id) where
  start := h.start
  filed := h.filed.detach id
  module_eq := h.module_eq
  ids := h.ids
  atEntry := h.atEntry
  origin found := h.origin (thread?_of_detach found)
  stays := by
    intro t ht
    rw [thread?_detach, if_neg, h.stays ht]
    rintro rfl
    exact h.not_mem_threadIds (Deed.mem_born_of_mem_alive ht) member

theorem Grown.restore (h : Grown count e ds e') (member : t.id ∈ e.threadIds)
    (runnable : t.isRunnable = true) : Grown count e ds (e'.restore t) where
  start := h.start
  filed := h.filed.restore (h.known member) runnable
  module_eq := h.module_eq
  ids := h.ids
  atEntry := h.atEntry
  origin := by
    intro id t' found
    obtain ⟨rfl, -⟩ | found := thread?_of_inserted (fun _ => thread?_restore e' t) found
    · exact .inl member
    · exact h.origin found
  stays := by
    intro t' ht'
    rw [thread?_restore, if_neg, h.stays ht']
    intro same
    exact h.not_mem_threadIds (Deed.mem_born_of_mem_alive ht') (same ▸ member)

theorem Grown.evolves (h : Grown count e ds e') (evolves : e'.Evolves ds' e'') :
    Grown count e (ds ++ ds') e'' where
  start := h.start
  filed := by
    rw [Deed.born_append, List.length_append, ← Nat.add_assoc]
    exact h.filed.evolves evolves
  module_eq := evolves.module_eq.trans h.module_eq
  ids := by
    rw [Deed.born_append, List.map_append, List.length_append, h.ids, evolves.ids,
      h.filed.nextThread, ← List.range'_append_1, Nat.add_right_comm]
  atEntry := by
    intro t ht
    rw [Deed.born_append, List.mem_append] at ht
    cases ht with
    | inl earlier => exact h.atEntry t earlier
    | inr later => exact h.module_eq ▸ evolves.atEntry t later
  origin := by
    intro id t found
    rw [Deed.alive_append, List.mem_append, List.mem_filter]
    obtain ⟨found, survived⟩ | ⟨ht, -⟩ := (evolves.thread?_iff id t).mp found
    · exact (h.origin found).imp_right fun ht => .inl ⟨ht, survived⟩
    · exact .inr (.inr ht)
  stays := by
    intro t ht
    rw [Deed.alive_append, List.mem_append, List.mem_filter] at ht
    rw [evolves.thread?_iff]
    cases ht with
    | inl earlier => exact .inl ⟨h.stays earlier.1, earlier.2⟩
    | inr later => exact .inr ⟨later, rfl⟩

theorem Grown.thread?_of_evolves (h : Grown count e ds e') (evolves : e'.Evolves ds' e'')
    (member : id ∈ e.threadIds) (found : e''.thread? id = some t) : e'.thread? id = some t := by
  obtain ⟨found, -⟩ | ⟨ht, rfl⟩ := (evolves.thread?_iff id t).mp found
  · exact found
  · -- A thread that was started since has an id that `e` does not know.
    have born := Deed.born_append ds ds' ▸
      List.mem_append_right (Deed.born ds) (Deed.mem_born_of_mem_alive ht)
    exact absurd member ((h.evolves evolves).not_mem_threadIds born)

variable {σ : Type} [Host σ] {config : Config} {now : Tick} {m : Machine σ}

theorem Grown.run_evolves (h : Grown count e ds m.environment) {budget : Nat}
    (room : Deed.Numbered count (ds ++ m.deeds config now budget)) :
    m.environment.Evolves (m.deeds config now budget) (m.run config now budget).2.environment := by
  refine Machine.run_evolves config now budget m h.filed.fresh ?_
  rw [Deed.Numbered, Deed.born_append, List.length_append] at room
  rw [h.filed.nextThread]
  omega

theorem Grown.runThread (h : Grown count e ds e') (member : t.id ∈ e.threadIds)
    (runnable : t.isRunnable = true) {host : σ}
    (same : m = { thread := t, environment := e'.detach t.id, host })
    (room : Deed.Numbered count (ds ++
      m.deeds config now config.runtime.maxInstructionsPerRun))
    (report : TickReport) :
    Grown count e (ds ++ m.deeds config now config.runtime.maxInstructionsPerRun)
      (TickState.runThread config now (e'.detach t.id) host report t).environment := by
  subst same
  have detached := h.detach member
  have grown := detached.evolves (detached.run_evolves room)
  simp only [TickState.runThread]
  split
  · next live =>
    refine grown.restore ?_ (Machine.isRunnable_run runnable live)
    rw [Machine.id_run]
    exact member
  · exact grown

end Environment

namespace TickState

open Environment

variable {σ : Type} [Host σ] {config : Config} {now : Tick} {e : Environment} {s : TickState σ}
  {count : Nat} {ds : List Deed} {id : ThreadId}

def deeds (config : Config) (now : Tick) (ids : List ThreadId) (s : TickState σ) : List Deed :=
  (machines config now ids s).flatMap
    (Machine.deeds config now config.runtime.maxInstructionsPerRun)

theorem deeds_append (config : Config) (now : Tick) (ids ids' : List ThreadId) (s : TickState σ) :
    deeds config now (ids ++ ids') s =
      deeds config now ids s ++ deeds config now ids' (ids.foldl (turn config now) s) := by
  simp [deeds, machines_append]

theorem deeds_of_idle (idle : s.dispatch? now id = none) : deeds config now [id] s = [] := by
  simp [deeds, machines, idle]

theorem deeds_of_due {t : Thread} (found : s.environment.thread? id = some t)
    (due : isDue s.host now t = true) :
    deeds config now [id] s = Machine.deeds config now config.runtime.maxInstructionsPerRun
      { thread := t.wake, environment := s.environment.detach id, host := s.host } := by
  simp [deeds, machines, dispatch?_eq_some_iff.mpr ⟨t, found, due, rfl⟩]

theorem Turn.grown {s' : TickState σ} (turn : Turn config now s id s')
    (h : Grown count e ds s.environment) (member : id ∈ e.threadIds)
    (room : Deed.Numbered count (ds ++ deeds config now [id] s)) :
    Grown count e (ds ++ deeds config now [id] s) s'.environment := by
  cases turn with
  | gone missing =>
    rw [deeds_of_idle (dispatch?_of_missing missing), List.append_nil]
    exact h
  | @held t reason found blocked waits =>
    rw [deeds_of_idle (dispatch?_of_idle found (isDue_of_held blocked waits)), List.append_nil]
    exact h
  | @runs t found due =>
    have same := h.filed.id_eq found
    subst same
    rw [deeds_of_due found due] at room ⊢
    exact h.runThread (t := t.wake) member rfl rfl room s.report
  | @dropped t found stuck =>
    rw [h.filed.runnable found] at stuck
    cases stuck

theorem foldl_turn_grown {ids : List ThreadId} (h : Grown count e ds s.environment)
    (members : ∀ id ∈ ids, id ∈ e.threadIds)
    (room : Deed.Numbered count (ds ++ deeds config now ids s)) :
    Grown count e (ds ++ deeds config now ids s)
      (ids.foldl (turn config now) s).environment := by
  induction ids generalizing s ds with
  | nil => simpa [deeds, machines] using h
  | cons id rest ih =>
    -- The deeds of this turn go over to what has been done when the next one begins.
    rw [← List.singleton_append, deeds_append, ← List.append_assoc] at room ⊢
    refine ih ?_ (fun id h => members id (List.mem_cons_of_mem _ h)) room
    exact (turn_cases config now s id).grown h (members id List.mem_cons_self) room.of_append

end TickState

def tickDeeds {σ : Type} [Host σ] (config : Config) (now : Tick) (e : Environment) (host : σ) :
    List Deed :=
  TickState.deeds config now e.threadIds { environment := e, host }

namespace Environment

variable {e e' : Environment} {count : Nat} {id : ThreadId} {t : Thread}

theorem Filed.foldl_turn {σ : Type} [Host σ] {config : Config} {now : Tick} {host : σ}
    {before after : List ThreadId} (h : e.Filed count) (split : e.threadIds = before ++ after)
    (room : Deed.Numbered count (tickDeeds config now e host)) :
    Grown count e (TickState.deeds config now before { environment := e, host })
      (before.foldl (TickState.turn config now) { environment := e, host }).environment := by
  refine TickState.foldl_turn_grown (s := { environment := e, host }) (.refl h) ?_ ?_
  · intro id earlier
    rw [split]
    exact List.mem_append_left _ earlier
  · rw [tickDeeds, split, TickState.deeds_append] at room
    exact room.of_append

theorem Filed.runTick {σ : Type} [Host σ] {config : Config} {now : Tick} {host : σ}
    (h : e.Filed count)
    (room : Deed.Numbered count (tickDeeds config now e host)) :
    Grown count e (tickDeeds config now e host) (runTick config now e host).environment :=
  h.foldl_turn (List.append_nil _).symm room

theorem Filed.enroll (h : e.Filed count) (next : t.id = e.nextThread)
    (atEntry : t.AtEntry e.module) (room : count + 1 < UInt64.size - 1) :
    (e.enroll t).Filed (count + 1) := by
  refine h.evolves (.cons (d := .start t) h.fresh ?_ ?_ ?_ (.refl _))
  · rintro _ ⟨⟩
    exact next
  · rintro _ ⟨⟩
    exact atEntry
  · rw [h.nextThread]
    exact Nat.add_lt_of_lt_sub room

inductive Reachable : Nat → Environment → Prop
  | create (module : Module) (unit : UnitId) (seed : UInt64) : Reachable 0 (create module unit seed)
  | createThread {count : Nat} {e e' : Environment} {script : ScriptId} {args : List Int32}
    {mask : UInt32} {id : ThreadId} : Reachable count e →
      e.createThread script args mask = .ok (id, e') → Reachable (count + 1) e'
  | startScript {count : Nat} {e e' : Environment} {name : String} {args : List Int32}
    {id : ThreadId} : Reachable count e →
      e.startScript name args = .ok (id, e') → Reachable (count + 1) e'
  | sendSignal {count : Nat} {e : Environment} (signal : UInt32) : Reachable count e →
    Reachable count (e.sendSignal signal)
  | setStatic {count : Nat} {e e' : Environment} {slot : Nat} {value : Int32} : Reachable count e →
    e.setStatic slot value = .ok e' → Reachable count e'
  | draw {count : Nat} {e : Environment} (low high : Int32) : Reachable count e →
    Reachable count (e.draw low high).2
  | run {σ : Type} [Host σ] {count : Nat} {e : Environment} {id : ThreadId} {t : Thread}
    (config : Config) (now : Tick) (host : σ) : Reachable count e → e.thread? id = some t →
      Reachable
        (count + (Deed.born (Machine.deeds config now config.runtime.maxInstructionsPerRun
          { thread := t, environment := e.detach id, host })).length)
        (TickState.runThread config now (e.detach id) host {} t).environment
  | tick {σ : Type} [Host σ] {count : Nat} {e : Environment} (config : Config) (now : Tick)
    (host : σ) : Reachable count e →
      Reachable (count + (Deed.born (tickDeeds config now e host)).length)
        (runTick config now e host).environment

theorem Reachable.filed (h : Reachable count e) (room : count < UInt64.size - 1) :
    e.Filed count := by
  induction h with
  | create module unit seed => exact filed_create module unit seed
  | createThread _ created ih =>
    obtain ⟨entry, found, -, rfl⟩ := createThread_eq_ok created
    exact (ih (Nat.lt_of_succ_lt room)).enroll rfl ⟨_, entry, _, _, found, rfl⟩ room
  | startScript _ started ih =>
    obtain ⟨script, entry, found, -, rfl⟩ := startScript_eq_ok started
    exact (ih (Nat.lt_of_succ_lt room)).enroll rfl ⟨script, entry, _, _, found, rfl⟩ room
  | sendSignal signal _ ih => exact (ih room).sendSignal signal
  | setStatic _ set ih =>
    unfold Environment.setStatic at set
    split at set
    · cases set
      exact (ih room).of_subset rfl id
    · cases set
  | draw low high _ ih => exact (ih room).of_subset rfl id
  | @run σ _ count e id t config now host _ found ih =>
    -- To run one thread is a tick cut down to a single turn.
    have filed := ih (Nat.lt_of_le_of_lt (Nat.le_add_right ..) room)
    have same := filed.id_eq found
    subst same
    exact ((Grown.refl filed).runThread (mem_threadIds.mpr ⟨t, found⟩) (filed.runnable found) rfl
      room {}).filed
  | tick config now host _ ih =>
    exact ((ih (Nat.lt_of_le_of_lt (Nat.le_add_right ..) room)).runTick room).filed

end Environment

end UnitScript
