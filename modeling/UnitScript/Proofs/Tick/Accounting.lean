import UnitScript.Proofs.Tick.Growth
import UnitScript.Sandbox

namespace UnitScript

namespace TickReport

variable {r : TickReport} {id other : ThreadId} {status : Status}

def ends (r : TickReport) : List ThreadId :=
  r.finished.toList ++ r.killed.toList ++ r.faulted.toList.map Prod.fst

theorem contains_ended : r.ended.contains id = true ↔ id ∈ r.ends := by
  rw [ended, Std.ExtTreeSet.contains_ofList, List.contains_iff_mem, ends]

theorem ends_record_perm (r : TickReport) (id : ThreadId) (status : Status) :
    (r.record id status).ends.Perm (if status.isLive then r.ends else id :: r.ends) := by
  cases status with
  | continuing => exact .refl _
  | blocked reason => exact .refl _
  | finished =>
    simp only [ends, record, Status.isLive, Array.toList_push, List.append_assoc]
    exact List.perm_middle
  | killed signal =>
    simp only [ends, record, Status.isLive, Array.toList_push, List.append_assoc]
    exact (List.perm_middle.append_left _).trans List.perm_middle
  | faulted fault =>
    simp only [ends, record, Status.isLive, Array.toList_push, List.map_append, ← List.append_assoc]
    exact List.perm_append_singleton ..

theorem mem_blocked_record :
    other ∈ (r.record id status).blocked ↔
      other ∈ r.blocked ∨ other = id ∧ ∃ reason, status = .blocked reason := by
  cases status <;> simp [record]

theorem blocked_record_sublist {done : List ThreadId} (h : r.blocked.toList.Sublist done) :
    (r.record id status).blocked.toList.Sublist (done ++ [id]) := by
  cases status with
  | blocked reason => simpa [record] using h.append (.refl [id])
  | _ => exact h.trans (List.sublist_append_left ..)

end TickReport

namespace TickState

open Environment

section Tally

variable {σ : Type} {e : Environment} {s : TickState σ} {id : ThreadId} {done ids : List ThreadId}

structure Tally (done : List ThreadId) (s : TickState σ) : Prop where
  nodup_ends : s.report.ends.Nodup
  ended : ∀ id ∈ s.report.ends, id ∈ done ∧ s.environment.thread? id = none
  ran_sublist : s.report.ran.toList.Sublist done
  blocked_sublist : s.report.blocked.toList.Sublist done
  mem_blocked : ∀ {id t}, id ∈ done → s.environment.thread? id = some t →
    (id ∈ s.report.blocked ↔ ∃ reason, t.state = .blocked reason)

theorem tally_nil (e : Environment) (host : σ) : Tally [] { environment := e, host } where
  nodup_ends := List.nodup_nil
  ended := nofun
  ran_sublist := .slnil
  blocked_sublist := .slnil
  mem_blocked := nofun

theorem Tally.ended_of_keeps (h : Tally done s)
    (keeps : ∀ {other t}, other ∈ done → e.thread? other = some t →
      s.environment.thread? other = some t) {other : ThreadId} (ends : other ∈ s.report.ends) :
    other ∈ done ++ [id] ∧ e.thread? other = none := by
  obtain ⟨old, gone⟩ := h.ended other ends
  refine ⟨List.mem_append_left _ old, Option.eq_none_iff_forall_ne_some.mpr ?_⟩
  intro t found
  rw [keeps old found] at gone
  cases gone

theorem Tally.gone (h : Tally done s) (missing : s.environment.thread? id = none) :
    Tally (done ++ [id]) s where
  nodup_ends := h.nodup_ends
  ended _ ends := h.ended_of_keeps (fun _ found => found) ends
  ran_sublist := h.ran_sublist.trans (List.sublist_append_left ..)
  blocked_sublist := h.blocked_sublist.trans (List.sublist_append_left ..)
  mem_blocked := by
    intro other t member found
    obtain old | rfl := (List.mem_append.mp member).imp_right List.mem_singleton.mp
    · exact h.mem_blocked old found
    · rw [missing] at found
      cases found

theorem Tally.held (h : Tally done s) (pending : id ∉ done) {t : Thread} {reason : BlockReason}
    (found : s.environment.thread? id = some t) (blocked : t.state = .blocked reason) :
    Tally (done ++ [id])
      { s with report := { s.report with blocked := s.report.blocked.push id } } where
  nodup_ends := h.nodup_ends
  ended _ ends := h.ended_of_keeps (fun _ found => found) ends
  ran_sublist := h.ran_sublist.trans (List.sublist_append_left ..)
  blocked_sublist := by simpa using h.blocked_sublist.append (.refl [id])
  mem_blocked := by
    intro other t' member found'
    rw [Array.mem_push]
    obtain old | rfl := (List.mem_append.mp member).imp_right List.mem_singleton.mp
    · have distinct : other ≠ id := fun same => pending (same ▸ old)
      simp [← h.mem_blocked old found', distinct]
    · rw [found] at found'
      cases found'
      simp [blocked]

theorem Tally.record (h : Tally done s) (pending : id ∉ done) {status : Status} {after : Thread}
    (keeps : ∀ {other t}, other ∈ done → e.thread? other = some t →
      s.environment.thread? other = some t)
    (own : ∀ {t}, e.thread? id = some t ↔ status.isLive = true ∧ after = t)
    (state : status.isLive = true → status = .continuing ∧ after.state = .ready ∨
      ∃ reason, status = .blocked reason ∧ after.state = .blocked reason) (host : σ) :
    Tally (done ++ [id]) { environment := e, host, report := s.report.record id status } where
  nodup_ends := by
    rw [(TickReport.ends_record_perm ..).nodup_iff]
    split
    · exact h.nodup_ends
    · exact List.nodup_cons.mpr ⟨fun ends => pending (h.ended _ ends).1, h.nodup_ends⟩
  ended := by
    intro other ends
    rw [(TickReport.ends_record_perm ..).mem_iff] at ends
    split at ends
    · exact h.ended_of_keeps keeps ends
    · next dead =>
      obtain rfl | ends := List.mem_cons.mp ends
      · refine ⟨List.mem_append_right _ (List.mem_singleton_self _), ?_⟩
        exact Option.eq_none_iff_forall_ne_some.mpr fun after found => dead (own.mp found).1
      · exact h.ended_of_keeps keeps ends
  ran_sublist := by
    rw [TickReport.ran_record, Array.toList_push]
    exact h.ran_sublist.append (.refl _)
  blocked_sublist := TickReport.blocked_record_sublist h.blocked_sublist
  mem_blocked := by
    intro other t member found
    rw [TickReport.mem_blocked_record]
    obtain old | rfl := (List.mem_append.mp member).imp_right List.mem_singleton.mp
    · have distinct : other ≠ id := fun same => pending (same ▸ old)
      simp [h.mem_blocked old (keeps old found), distinct]
    · have unblocked : other ∉ s.report.blocked := fun blocked =>
        pending (h.blocked_sublist.subset (Array.mem_toList_iff.mpr blocked))
      obtain ⟨live, rfl⟩ := own.mp found
      obtain ⟨status, state⟩ | ⟨reason, status, state⟩ := state live
      · simp [status, state, unblocked]
      · simp [status, state]

def lost (s : TickState σ) (ids : List ThreadId) : List ThreadId :=
  ids.filter fun id => !s.report.ended.contains id && !s.environment.threads.contains id

theorem mem_lost :
    id ∈ s.lost ids ↔ id ∈ ids ∧ id ∉ s.report.ends ∧ id ∉ s.environment.threadIds := by
  rw [lost, List.mem_filter, Bool.and_eq_true, Bool.not_eq_true', Bool.not_eq_true',
    ← Bool.not_eq_true, ← Bool.not_eq_true, TickReport.contains_ended, contains_eq_true_iff]

theorem ends_close_perm (s : TickState σ) (ids : List ThreadId) :
    (s.close ids).report.ends.Perm (s.report.ends ++ s.lost ids) := by
  have killed : (s.close ids).report.killed.toList = s.report.killed.toList ++ s.lost ids := by
    simp [close, lost]
  simp only [TickReport.ends, killed, List.append_assoc]
  exact (List.perm_append_comm.append_left _).append_left _

theorem Tally.ends_close_perm (h : Tally ids s) (distinct : ids.Nodup) :
    ((s.close ids).report.ends ++ ids.filter (· ∈ s.environment.threadIds)).Perm ids := by
  refine ((s.ends_close_perm ids).append_right _).trans ?_
  refine (List.perm_ext_iff_of_nodup ?_ distinct).mpr fun id => ?_
  · rw [List.nodup_append, List.nodup_append]
    refine ⟨⟨h.nodup_ends, distinct.filter _, ?_⟩, distinct.filter _, ?_⟩
    · rintro id ends _ lost rfl
      exact (mem_lost.mp lost).2.1 ends
    · rintro id ended _ live rfl
      have live : id ∈ s.environment.threadIds := by simpa using (List.mem_filter.mp live).2
      obtain ends | lost := List.mem_append.mp ended
      · obtain ⟨t, found⟩ := mem_threadIds.mp live
        rw [(h.ended id ends).2] at found
        cases found
      · exact (mem_lost.mp lost).2.2 live
  · simp only [List.mem_append, mem_lost, List.mem_filter, decide_eq_true_eq]
    constructor
    · rintro ((ends | lost) | live)
      · exact (h.ended id ends).1
      · exact lost.1
      · exact live.1
    · intro member
      by_cases ends : id ∈ s.report.ends
      · exact .inl (.inl ends)
      · by_cases live : id ∈ s.environment.threadIds
        · exact .inr ⟨member, live⟩
        · exact .inl (.inr ⟨member, ends, live⟩)

theorem Tally.mem_blocked_close (h : Tally ids s) :
    id ∈ (s.close ids).report.blocked ↔ id ∈ ids ∧
      ∃ t reason, s.environment.thread? id = some t ∧ t.state = .blocked reason := by
  have closed : id ∈ (s.close ids).report.blocked ↔
      id ∈ s.report.blocked ∧ ∃ t, s.environment.thread? id = some t := by
    rw [← mem_threadIds, ← contains_eq_true_iff]
    exact Array.mem_filter
  rw [closed]
  constructor
  · rintro ⟨blocked, t, found⟩
    have member := h.blocked_sublist.subset (Array.mem_toList_iff.mpr blocked)
    obtain ⟨reason, state⟩ := (h.mem_blocked member found).mp blocked
    exact ⟨member, t, reason, found, state⟩
  · rintro ⟨member, t, reason, found, state⟩
    exact ⟨(h.mem_blocked member found).mpr ⟨reason, state⟩, t, found⟩

theorem Tally.blocked_close_sublist (h : Tally ids s) :
    (s.close ids).report.blocked.toList.Sublist ids := by
  have closed : (s.close ids).report.blocked.toList.Sublist s.report.blocked.toList := by
    simp [close]
  exact closed.trans h.blocked_sublist

end Tally

variable {σ : Type} [Host σ] {config : Config} {now : Tick} {e : Environment} {s s' : TickState σ}
  {count : Nat} {ds : List Deed} {id : ThreadId} {done : List ThreadId}

section RunThread

variable {t : Thread} {host : σ} {m : Machine σ}

theorem thread?_runThread_of_ne (same : m = { thread := t, environment := e, host })
    (report : TickReport) {other : ThreadId} (distinct : t.id ≠ other) :
    (runThread config now e host report t).environment.thread? other =
      (m.run config now config.runtime.maxInstructionsPerRun).2.environment.thread? other := by
  subst same
  simp only [runThread]
  split
  · rw [thread?_restore, Machine.id_run, if_neg distinct]
  · rfl

theorem thread?_runThread_self_iff (h : Grown count e ds s.environment)
    (member : t.id ∈ e.threadIds)
    (same : m = { thread := t, environment := s.environment.detach t.id, host })
    (room : Deed.Numbered count (ds ++
      m.deeds config now config.runtime.maxInstructionsPerRun))
    (report : TickReport) {after : Thread} :
    (runThread config now (s.environment.detach t.id) host report t).environment.thread? t.id =
        some after ↔
      (m.run config now config.runtime.maxInstructionsPerRun).1.isLive = true ∧
        (m.run config now config.runtime.maxInstructionsPerRun).2.thread = after := by
  subst same
  simp only [runThread]
  split
  · next live =>
    rw [thread?_restore, Machine.id_run, if_pos rfl, Option.some.injEq, live]
    simp
  · next dead =>
    have detached := h.detach member
    refine iff_of_false (fun found => ?_) fun live => dead live.1
    have found := detached.thread?_of_evolves (detached.run_evolves room) member found
    simp at found

end RunThread

theorem Turn.keeps (turn : Turn config now s id s') (h : Grown count e ds s.environment)
    (room : Deed.Numbered count (ds ++ deeds config now [id] s))
    {other : ThreadId} {t : Thread} (member : id ∈ e.threadIds) (old : other ∈ e.threadIds)
    (distinct : id ≠ other) (found : s'.environment.thread? other = some t) :
    s.environment.thread? other = some t := by
  cases turn with
  | gone => exact found
  | held => exact found
  | @runs t' found' due =>
    have same := h.filed.id_eq found'
    subst same
    rw [deeds_of_due found' due] at room
    rw [thread?_runThread_of_ne (t := t'.wake) rfl _ distinct] at found
    have detached := h.detach member
    exact thread?_of_detach (detached.thread?_of_evolves (detached.run_evolves room) old found)
  | dropped => exact thread?_of_detach found

theorem Turn.tally (turn : Turn config now s id s') (h : Tally done s)
    (grown : Grown count e ds s.environment)
    (room : Deed.Numbered count (ds ++ deeds config now [id] s))
    (members : ∀ other ∈ done, other ∈ e.threadIds) (member : id ∈ e.threadIds)
    (pending : id ∉ done) : Tally (done ++ [id]) s' := by
  have keeps {other : ThreadId} {t : Thread} (old : other ∈ done) :
      s'.environment.thread? other = some t → s.environment.thread? other = some t :=
    turn.keeps grown room member (members other old) fun same => pending (same ▸ old)
  cases turn with
  | gone missing => exact h.gone missing
  | held found blocked _ => exact h.held pending found blocked
  | @runs t found due =>
    have same := grown.filed.id_eq found
    subst same
    rw [deeds_of_due found due] at room
    exact h.record pending keeps (thread?_runThread_self_iff (t := t.wake) grown member rfl room _)
      (fun live => Machine.state_run live) _
  | @dropped t found stuck =>
    rw [grown.filed.runnable found] at stuck
    cases stuck

theorem foldl_turn_tally {ids : List ThreadId} (h : Tally done s)
    (grown : Grown count e ds s.environment)
    (room : Deed.Numbered count (ds ++ deeds config now ids s))
    (members : ∀ id ∈ done ++ ids, id ∈ e.threadIds) (distinct : (done ++ ids).Nodup) :
    Tally (done ++ ids) (ids.foldl (turn config now) s) := by
  induction ids generalizing s done ds with
  | nil => simpa using h
  | cons id rest ih =>
    -- The tally needs to know the table for each turn, so both invariants go along together.
    have turn := turn_cases config now s id
    rw [← List.singleton_append, deeds_append, ← List.append_assoc] at room
    have member : id ∈ e.threadIds := members id (by simp)
    have pending : id ∉ done := by
      intro old
      exact List.nodup_append.mp distinct |>.2.2 id old id List.mem_cons_self rfl
    have old (other : ThreadId) (h : other ∈ done) : other ∈ e.threadIds :=
      members other (List.mem_append_left _ h)
    rw [List.append_cons] at members distinct ⊢
    exact ih (turn.tally h grown room.of_append old member pending)
      (turn.grown grown member room.of_append) room members distinct

structure Accounted (config : Config) (now : Tick) (e : Environment) (host : σ) (s : TickState σ) :
    Prop where
  partition : (s.report.ends ++ e.threadIds.filter (· ∈ s.environment.threadIds)).Perm e.threadIds
  nodup : (s.report.ends ++ e.threadIds.filter (· ∈ s.environment.threadIds)).Nodup
  blocked_increasing : s.report.blocked.toList.Pairwise (· < ·)
  mem_blocked : ∀ id, id ∈ s.report.blocked ↔ id ∈ e.threadIds ∧
    ∃ t reason, s.environment.thread? id = some t ∧ t.state = .blocked reason
  ready : ∀ id ∈ e.threadIds, ∀ t, s.environment.thread? id = some t → id ∉ s.report.blocked →
    t.state = .ready
  ran_increasing : s.report.ran.toList.Pairwise (· < ·)
  /-- A thread has run just if it was due when the threads before it had had their turns. -/
  mem_ran : ∀ id, id ∈ s.report.ran ↔ ∃ before after, e.threadIds = before ++ id :: after ∧
    ∃ t, (before.foldl (turn config now) { environment := e, host }).environment.thread? id =
        some t ∧
      isDue (before.foldl (turn config now) { environment := e, host }).host now t = true
  /-- A thread started by the tick is new, and it has executed nothing if it is still there. -/
  newcomer : ∀ t ∈ Deed.born (tickDeeds config now e host), t.id ∉ e.threadIds ∧
    ∀ t', s.environment.thread? t.id = some t' → t' = t ∧ t'.AtEntry e.module
  origin : ∀ id t, s.environment.thread? id = some t →
    id ∈ e.threadIds ∨ t ∈ Deed.born (tickDeeds config now e host)

theorem mem_ran_foldl_turn {host : σ} (h : e.Filed count)
    (room : Deed.Numbered count (tickDeeds config now e host)) :
    id ∈ (e.threadIds.foldl (turn config now) { environment := e, host }).report.ran ↔
      ∃ before after, e.threadIds = before ++ id :: after ∧
        ∃ t, (before.foldl (turn config now) { environment := e, host }).environment.thread? id =
            some t ∧
          isDue (before.foldl (turn config now) { environment := e, host }).host now t = true := by
  rw [← Array.mem_toList_iff, ran_foldl_turn, List.nil_append, List.mem_map]
  constructor
  · rintro ⟨m, member, same⟩
    obtain ⟨before, key, after, split, dispatched⟩ := mem_machines_iff.mp member
    obtain ⟨t, found, due, rfl⟩ := dispatch?_eq_some_iff.mp dispatched
    have filed := (h.foldl_turn split room).filed
    have key_eq : key = id := (filed.id_eq found).symm.trans same
    subst key_eq
    exact ⟨before, after, split, t, found, due⟩
  · rintro ⟨before, after, split, t, found, due⟩
    have same : t.id = id := (h.foldl_turn split room).filed.id_eq found
    have dispatched := dispatch?_eq_some_iff.mpr ⟨t, found, due, rfl⟩
    exact ⟨_, mem_machines_iff.mpr ⟨before, id, after, split, dispatched⟩, same⟩

theorem tally_scheduled {host : σ} (h : e.Filed count)
    (room : Deed.Numbered count (tickDeeds config now e host)) :
    Tally e.threadIds (e.threadIds.foldl (turn config now) { environment := e, host }) :=
  foldl_turn_tally (tally_nil e host) (.refl h) room (fun _ h => h) e.nodup_threadIds

theorem ends_runTick_perm {host : σ} (h : e.Filed count)
    (room : Deed.Numbered count (tickDeeds config now e host)) :
    ((runTick config now e host).report.ends ++
      e.threadIds.filter (· ∈ (runTick config now e host).environment.threadIds)).Perm
      e.threadIds :=
  (tally_scheduled h room).ends_close_perm e.nodup_threadIds

/-- The report of a tick is a full account of it, as long as ids are not used up. -/
theorem runTick_accounted (reachable : e.Reachable count) (config : Config) (now : Tick) (host : σ)
    (room : count + (Deed.born (tickDeeds config now e host)).length < UInt64.size - 1) :
    Accounted config now e host (runTick config now e host) := by
  have filed := reachable.filed (Deed.Numbered.lt room)
  have tally := tally_scheduled filed room
  have grown := filed.runTick room
  have partition := ends_runTick_perm filed room
  have increasing := e.threadIds_increasing
  refine ⟨partition, partition.nodup_iff.mpr e.nodup_threadIds,
    increasing.sublist tally.blocked_close_sublist, fun id => tally.mem_blocked_close, ?_,
    increasing.sublist tally.ran_sublist, fun id => mem_ran_foldl_turn filed room, ?_, ?_⟩
  · intro id member t found unblocked
    have runnable := grown.filed.runnable found
    have blocked : ∀ reason, t.state ≠ .blocked reason := fun reason state =>
      unblocked (tally.mem_blocked_close.mpr ⟨member, t, reason, found, state⟩)
    unfold Thread.isRunnable at runnable
    split at runnable
    · next ready => exact ready
    · next reason state => exact absurd state (blocked reason)
    · cases runnable
  · intro t ht
    refine ⟨grown.not_mem_threadIds ht, ?_⟩
    intro t' found
    obtain member | alive := grown.origin found
    · exact absurd member (grown.not_mem_threadIds ht)
    · have ht' := Deed.mem_born_of_mem_alive alive
      have same := grown.eq_of_id_eq ht' ht (grown.filed.id_eq found)
      exact ⟨same, grown.atEntry t' ht'⟩
  · intro id t found
    exact (grown.origin found).imp_right Deed.mem_born_of_mem_alive

def alarm : Module where
  definition :=
    { scripts := #[{ name := "Sleep", offset := 0 }, { name := "Raise", offset := 5 },
        { name := "Break", offset := 8 }]
      code := #[.pushConstant 1, .setSignalMask, .pushConstant 100, .sleep, .returnFromScript,
        .pushConstant 1, .sendSignal, .returnFromScript, .startScript ⟨1⟩ 0, .popStack] }
  checked := by decide +kernel

theorem alarm_accounted :
    ∃ e, Reachable 3 e ∧
      (runTick {} 0 e ({ pieces := .ofCount 0 } : Recorder)).report =
        { ran := #[1, 2, 3], finished := #[2], killed := #[1],
          faulted := #[(3, ⟨9, .stackUnderflow⟩)] } ∧
      Accounted {} 0 e { pieces := .ofCount 0 }
        (runTick {} 0 e ({ pieces := .ofCount 0 } : Recorder)) := by
  have sleeper := (Reachable.create alarm 1 0).createThread
    (show Environment.createThread _ ⟨0⟩ [] 0 = .ok (1, _) from rfl)
  have raiser := sleeper.createThread
    (show Environment.createThread _ ⟨1⟩ [] 0 = .ok (2, _) from rfl)
  have breaker := raiser.createThread
    (show Environment.createThread _ ⟨2⟩ [] 0 = .ok (3, _) from rfl)
  exact ⟨_, breaker, by decide +kernel, runTick_accounted breaker {} 0 _ (by decide +kernel)⟩

end TickState

end UnitScript
