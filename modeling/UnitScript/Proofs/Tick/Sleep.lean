import Mathlib.Algebra.Ring.Nat
import Mathlib.Order.Bounds.Basic
import UnitScript.Proofs.Interpreter.Calls
import UnitScript.Proofs.Interpreter.Signals
import UnitScript.Proofs.Tick.Accounting

namespace UnitScript

namespace RuntimeConfig

/-- So many ticks, one at least, are long enough for so many milliseconds. -/
def Covers (config : RuntimeConfig) (ms : Int32) (k : Nat) : Prop :=
  1 ≤ k ∧ ms.toInt ≤ k * max 1 config.tickDurationMs.toNat

variable {config : RuntimeConfig} {ms : Int32} {k : Nat}

theorem covers_iff :
    config.Covers ms k ↔
      max 1 ((ms.toInt.toNat + (max 1 config.tickDurationMs.toNat - 1)) /
        max 1 config.tickDurationMs.toNat) ≤ k := by
  have pos : 0 < max 1 config.tickDurationMs.toNat := by omega
  rw [Covers, Nat.max_le, ← Nat.lt_succ_iff (m := _ / _), Nat.div_lt_iff_lt_mul pos, Nat.succ_mul]
  generalize max 1 config.tickDurationMs.toNat = tick at pos ⊢
  rw [← Int.natCast_mul]
  generalize k * tick = covered
  omega

theorem toNat_sleepTicks (config : RuntimeConfig) (ms : Int32) :
    (config.sleepTicks ms).toNat =
      max 1 ((ms.toInt.toNat + (max 1 config.tickDurationMs.toNat - 1)) /
        max 1 config.tickDurationMs.toNat) := by
  refine UInt64.toNat_ofNat_of_lt' (Nat.lt_of_le_of_lt ?_ (by decide : 2 ^ 31 < UInt64.size))
  -- The longest sleep has fewer milliseconds than this, and a tick has at least one.
  rw [← covers_iff, Covers]
  have short := ms.toInt_lt
  omega

theorem covers_iff_sleepTicks_le : config.Covers ms k ↔ (config.sleepTicks ms).toNat ≤ k := by
  rw [toNat_sleepTicks, covers_iff]

theorem isLeast_sleepTicks (config : RuntimeConfig) (ms : Int32) :
    IsLeast { k | config.Covers ms k } (config.sleepTicks ms).toNat :=
  ⟨covers_iff_sleepTicks_le.mpr (Nat.le_refl _), fun _ => covers_iff_sleepTicks_le.mp⟩

theorem toNat_sleepTicks_pos (config : RuntimeConfig) (ms : Int32) :
    1 ≤ (config.sleepTicks ms).toNat :=
  (config.isLeast_sleepTicks ms).1.1

theorem toNat_add_sleepTicks (config : RuntimeConfig) (ms : Int32) {now : Tick}
    (early : now.toNat < 2 ^ 63) :
    (now + config.sleepTicks ms).toNat = now.toNat + (config.sleepTicks ms).toNat := by
  have short : (config.sleepTicks ms).toNat ≤ 2 ^ 31 := by
    rw [← covers_iff_sleepTicks_le, Covers]
    have short := ms.toInt_lt
    omega
  rw [UInt64.toNat_add]
  exact Nat.mod_eq_of_lt (by omega)

end RuntimeConfig

namespace Machine

variable {σ : Type} [Host σ] {config : Config} {now : Tick} {m : Machine σ} {s : Step}

def LiesDown (config : Config) (now : Tick) (s : Step) : Prop :=
  ∀ deadline, s.stop = some (.blocked (.sleep deadline)) →
    ∃ ms, deadline = now + config.runtime.sleepTicks ms

theorem step_liesDown (worked : m.step config now = .ok s) : LiesDown config now s := by
  obtain ⟨i, -, shape⟩ := step_shape worked
  cases shape with
  | sleeps =>
    rintro _ ⟨⟩
    exact ⟨_, rfl⟩
  | signals =>
    intro deadline killed
    dsimp only at killed
    split at killed <;> cases killed
  | _ => exact nofun

end Machine

def Thread.Overdue (now : Tick) (t : Thread) : Prop :=
  ∃ deadline, t.state = .blocked (.sleep deadline) ∧ deadline ≤ now

theorem Thread.not_overdue_of_ready {now : Tick} {t : Thread} (ready : t.state = .ready) :
    ¬t.Overdue now := by
  rintro ⟨deadline, state, -⟩
  rw [ready] at state
  cases state

theorem Environment.thread?_of_carryOut {e : Environment} {d : Deed} {id : ThreadId} {t : Thread}
    (started : ∀ t, d = .start t → t.state = .ready)
    (found : (e.carryOut d).thread? id = some t) : e.thread? id = some t ∨ t.state = .ready := by
  cases d with
  | start t' =>
    obtain ⟨-, rfl⟩ | found := thread?_of_inserted (fun _ => thread?_enroll e t') found
    · exact .inr (started _ rfl)
    · exact .inl found
  | signal bits => exact .inl (thread?_of_sendSignal found)
  | _ => exact .inl found

namespace Machine

variable {σ : Type} [Host σ] {config : Config} {now : Tick} {m last : Machine σ} {budget : Nat}

theorem thread?_of_step {s : Step} (worked : m.step config now = .ok s) {id : ThreadId} {t : Thread}
    (found : (m.environment.carryOut s.deed).thread? id = some t) :
    m.environment.thread? id = some t ∨ t.state = .ready := by
  refine Environment.thread?_of_carryOut ?_ found
  intro t started
  obtain ⟨script, entry, args, -, rfl⟩ :=
    ((m.step_follows config now).of_ok worked).started t started
  rfl

theorem Reaches.thread?_origin (path : Reaches config now m last) {id : ThreadId} {t : Thread}
    (found : last.environment.thread? id = some t) :
    m.environment.thread? id = some t ∨ t.state = .ready := by
  induction path with
  | refl => exact .inl found
  | step worked _ _ ih =>
    obtain found | ready := ih found
    · rw [environment_perform] at found
      exact thread?_of_step worked found
    · exact .inr ready

theorem thread?_run_origin {id : ThreadId} {t : Thread}
    (found : (m.run config now budget).2.environment.thread? id = some t) :
    m.environment.thread? id = some t ∨ t.state = .ready := by
  obtain ⟨last, path, ending⟩ := run_ends config now budget m
  generalize m.run config now budget = r at found ending
  cases ending with
  | exhausted => exact path.thread?_origin found
  | halted worked _ =>
    rw [environment_settle, environment_perform] at found
    obtain found | ready := thread?_of_step worked found
    · exact path.thread?_origin found
    · exact .inr ready
  | faulted => exact path.thread?_origin found

theorem not_overdue_run (early : now.toNat < 2 ^ 63) (ready : m.thread.state = .ready)
    (live : (m.run config now budget).1.isLive = true) :
    ¬(m.run config now budget).2.thread.Overdue now := by
  obtain ⟨last, path, ending⟩ := run_ends config now budget m
  generalize m.run config now budget = r at live ending
  cases ending with
  | exhausted => exact Thread.not_overdue_of_ready (path.state_eq.trans ready)
  | @halted s halt worked stop =>
    cases halt with
    | blocked reason =>
      rintro ⟨deadline, state, past⟩
      cases state
      obtain ⟨ms, rfl⟩ := step_liesDown worked deadline stop
      have lasts := config.runtime.toNat_sleepTicks_pos ms
      rw [UInt64.le_iff_toNat_le, config.runtime.toNat_add_sleepTicks ms early] at past
      omega
    | finished => cases live
    | killed signal => cases live
  | faulted => cases live

theorem run_eq_of_stop {x : Execution σ} {halt : Halt} (member : x ∈ m.trace config now budget)
    (stop : x.step.stop = some halt) :
    m.run config now budget = (halt.status,
      (perform x.step.thread x.machine.environment x.machine.host x.step.deed).settle halt) := by
  induction budget generalizing m with
  | zero => cases member
  | succ budget ih =>
    unfold trace at member
    split at member
    · next instr step fetched worked =>
      simp only [run, worked]
      cases halted : step.stop with
      | none =>
        simp only [halted] at member
        obtain rfl | member := List.mem_cons.mp member
        · cases halted.symm.trans stop
        · exact ih member
      | some last =>
        simp only [halted, List.mem_singleton] at member
        subst member
        cases halted.symm.trans stop
        rfl
    · cases member

theorem run_of_stop {x : Execution σ} {halt : Halt} (member : x ∈ m.trace config now budget)
    (stop : x.step.stop = some halt) :
    (m.run config now budget).1 = halt.status ∧
      (m.run config now budget).2.thread = x.after := by
  rw [run_eq_of_stop member stop, Execution.after, stop]
  exact ⟨rfl, rfl⟩

end Machine

theorem Execution.Genuine.sleep {σ : Type} [Host σ] {config : Config} {now : Tick}
    {x : Execution σ} {ms : Int32} (h : x.Genuine config now) (sleeps : x.instr = .sleep)
    (popped : x.machine.thread.stack.top? = some ms) :
    x.step.stop = some (.blocked (.sleep (now + config.runtime.sleepTicks ms))) ∧
      x.after.state = .blocked (.sleep (now + config.runtime.sleepTicks ms)) := by
  obtain ⟨machine, instr, step⟩ := x
  cases sleeps
  have shape := h.shape
  dsimp only at shape
  cases shape with
  | plain plain => cases plain
  | sleeps hstack =>
    change machine.thread.stack = _ at hstack
    obtain rfl : _ = ms := by simpa [Stack.top?, hstack] using popped
    exact ⟨rfl, rfl⟩

namespace TickState

open Environment

variable {σ : Type} [Host σ] {config : Config} {now : Tick} {e : Environment} {s s' : TickState σ}
  {id : ThreadId} {rest : List ThreadId}

def Punctual (now : Tick) (pending : List ThreadId) (e : Environment) : Prop :=
  ∀ id t, e.thread? id = some t → t.Overdue now → id ∈ pending

theorem Turn.punctual (turn : Turn config now s id s') (early : now.toNat < 2 ^ 63)
    (h : Punctual now (id :: rest) s.environment) : Punctual now rest s'.environment := by
  have others {other : ThreadId} {t : Thread} (ne : other ≠ id)
      (found : s.environment.thread? other = some t) (overdue : t.Overdue now) : other ∈ rest :=
    (List.mem_cons.mp (h other t found overdue)).resolve_left ne
  have detached {other : ThreadId} {t : Thread}
      (found : (s.environment.detach id).thread? other = some t) (overdue : t.Overdue now) :
      other ∈ rest := by
    rw [thread?_detach] at found
    split at found
    · cases found
    · next ne => exact others (Ne.symm ne) found overdue
  cases turn with
  | gone missing =>
    intro other t found overdue
    refine others ?_ found overdue
    rintro rfl
    rw [missing] at found
    cases found
  | @held t reason there blocked waits =>
    intro other t' found overdue
    refine others ?_ found overdue
    rintro rfl
    cases there.symm.trans found
    obtain ⟨deadline, state, past⟩ := overdue
    cases blocked.symm.trans state
    simp [isCleared, past] at waits
  | @runs t there due =>
    intro other t' found overdue
    simp only [runThread] at found
    split at found
    · next live =>
      rw [thread?_restore, Machine.id_run] at found
      split at found
      · cases found
        exact absurd overdue (Machine.not_overdue_run early rfl live)
      · obtain found | ready := Machine.thread?_run_origin found
        · exact detached found overdue
        · exact absurd overdue (Thread.not_overdue_of_ready ready)
    · obtain found | ready := Machine.thread?_run_origin found
      · exact detached found overdue
      · exact absurd overdue (Thread.not_overdue_of_ready ready)
  | dropped there stuck =>
    intro other t' found overdue
    exact detached found overdue

theorem foldl_turn_punctual {ids : List ThreadId} (early : now.toNat < 2 ^ 63)
    (h : Punctual now ids s.environment) :
    Punctual now [] (ids.foldl (turn config now) s).environment := by
  induction ids generalizing s with
  | nil => exact h
  | cons id rest ih => exact ih ((turn_cases config now s id).punctual early h)

theorem not_overdue_runTick {host : σ} {t : Thread} (early : now.toNat < 2 ^ 63)
    (found : (runTick config now e host).environment.thread? id = some t) : ¬t.Overdue now := by
  intro overdue
  have all : Punctual now e.threadIds e := fun id t found _ => mem_threadIds.mpr ⟨t, found⟩
  cases foldl_turn_punctual (s := { environment := e, host }) early all id t found overdue

end TickState

namespace Deed

def Strike (ds : List Deed) (t : Thread) : Prop :=
  ∃ bits, .signal bits ∈ ds ∧ t.mask &&& bits ≠ 0

theorem not_survives_iff {ds : List Deed} {t : Thread} : ¬survives ds t = true ↔ Strike ds t := by
  simp only [survives, List.all_eq_true, spares_iff, Strike]
  constructor
  · intro struck
    by_contra never
    refine struck fun d member bits signal => ?_
    by_contra heard
    exact never ⟨bits, signal ▸ member, heard⟩
  · rintro ⟨bits, member, heard⟩ spared
    exact heard (spared _ member bits rfl)

theorem filter_survives_nil (t : Option Thread) : t.filter (survives []) = t := by
  cases t <;> rfl

theorem filter_survives_append (ds ds' : List Deed) (t : Option Thread) :
    t.filter (survives (ds ++ ds')) = (t.filter (survives ds)).filter (survives ds') := by
  rw [Option.filter_filter]
  congr 1
  funext t
  rw [survives_append, Bool.and_comm]

instance (ds : List Deed) (t : Thread) : Decidable (Strike ds t) :=
  decidable_of_iff (¬survives ds t = true) not_survives_iff

theorem filter_survives_cases (ds : List Deed) (t : Thread) :
    (some t).filter (survives ds) = some t ∧ ¬Strike ds t ∨
      (some t).filter (survives ds) = .none ∧ Strike ds t := by
  by_cases spared : survives ds t = true
  · simp [Option.filter_some, spared, ← not_survives_iff]
  · simp [Option.filter_some, spared, ← not_survives_iff]

end Deed

namespace Environment

variable {e : Environment} {id : ThreadId} {before after : List ThreadId}

def earlier (e : Environment) (id : ThreadId) : List ThreadId := e.threadIds.filter (· < id)

def later (e : Environment) (id : ThreadId) : List ThreadId := e.threadIds.filter (id < ·)

theorem earlier_eq (split : e.threadIds = before ++ id :: after) : e.earlier id = before := by
  have increasing := e.threadIds_increasing
  rw [split, List.pairwise_append, List.pairwise_cons] at increasing
  obtain ⟨-, ⟨behind, -⟩, across⟩ := increasing
  rw [earlier, split, List.filter_append, List.filter_eq_self.mpr, List.filter_eq_nil_iff.mpr,
    List.append_nil]
  · intro other member
    obtain rfl | member := List.mem_cons.mp member
    · simp
    · simpa using UInt64.le_of_lt (behind other member)
  · intro other member
    simpa using across other member id List.mem_cons_self

theorem later_eq (split : e.threadIds = before ++ id :: after) : e.later id = after := by
  have increasing := e.threadIds_increasing
  rw [split, List.pairwise_append, List.pairwise_cons] at increasing
  obtain ⟨-, ⟨behind, -⟩, across⟩ := increasing
  rw [later, split, List.filter_append, List.filter_eq_nil_iff.mpr, List.nil_append,
    List.filter_cons_of_neg (by simp), List.filter_eq_self.mpr]
  · intro other member
    simpa using behind other member
  · intro other member
    simpa using UInt64.le_of_lt (across other member id List.mem_cons_self)

theorem threadIds_split (member : id ∈ e.threadIds) :
    e.threadIds = e.earlier id ++ id :: e.later id := by
  obtain ⟨before, after, split⟩ := List.append_of_mem member
  rw [earlier_eq split, later_eq split, split]

theorem not_mem_earlier : id ∉ e.earlier id := by
  simp [earlier]

theorem not_mem_later : id ∉ e.later id := by
  simp [later]

end Environment

namespace TickState

open Environment

variable {σ : Type} [Host σ] {config : Config} {now : Tick} {e : Environment} {s s' : TickState σ}
  {count : Nat} {ds : List Deed} {id turned : ThreadId} {t : Thread} {ids : List ThreadId}

theorem Turn.thread?_of_ne (turn : Turn config now s turned s')
    (h : Grown count e ds s.environment) (member : turned ∈ e.threadIds) (old : id ∈ e.threadIds)
    (room : Deed.Numbered count (ds ++ deeds config now [turned] s)) (other : turned ≠ id) :
    s'.environment.thread? id =
      (s.environment.thread? id).filter (Deed.survives (deeds config now [turned] s)) := by
  cases found : s.environment.thread? id with
  | none =>
    rw [Option.filter_none, Option.eq_none_iff_forall_ne_some]
    intro t there
    rw [turn.keeps h room member old other there] at found
    cases found
  | some t =>
    rw [Option.filter_some]
    cases turn with
    | gone missing =>
      rw [deeds_of_idle (dispatch?_of_missing missing)]
      exact found
    | held there blocked waits =>
      rw [deeds_of_idle (dispatch?_of_idle there (isDue_of_held blocked waits))]
      exact found
    | @runs t' there due =>
      have same := h.filed.id_eq there
      subst same
      rw [deeds_of_due there due] at room ⊢
      have detached := h.detach member
      rw [thread?_runThread_of_ne (t := t'.wake) rfl _ other]
      refine (detached.run_evolves room).thread?_eq detached.filed.fresh ?_
      rw [thread?_detach, if_neg other, found]
    | dropped there stuck =>
      rw [h.filed.runnable there] at stuck
      cases stuck

theorem foldl_turn_thread? (h : Grown count e ds s.environment)
    (members : ∀ turned ∈ ids, turned ∈ e.threadIds)
    (room : Deed.Numbered count (ds ++ deeds config now ids s)) (old : id ∈ e.threadIds)
    (absent : id ∉ ids) :
    (ids.foldl (turn config now) s).environment.thread? id =
      (s.environment.thread? id).filter (Deed.survives (deeds config now ids s)) := by
  induction ids generalizing s ds with
  | nil => exact (Deed.filter_survives_nil _).symm
  | cons turned rest ih =>
    rw [← List.singleton_append, deeds_append, ← List.append_assoc] at room
    rw [List.mem_cons, not_or] at absent
    have member := members turned List.mem_cons_self
    have turn := turn_cases config now s turned
    have later := ih (turn.grown h member room.of_append)
      (fun other later => members other (List.mem_cons_of_mem turned later)) room absent.2
    rw [List.foldl_cons, later,
      turn.thread?_of_ne h member old room.of_append (Ne.symm absent.1),
      ← Deed.filter_survives_append]
    exact congrArg (fun ds => Option.filter (Deed.survives ds) _)
      (deeds_append config now [turned] rest s).symm

def atTurn (config : Config) (now : Tick) (e : Environment) (host : σ) (id : ThreadId) :
    TickState σ :=
  (e.earlier id).foldl (turn config now) { environment := e, host }

def deedsBefore (config : Config) (now : Tick) (e : Environment) (host : σ) (id : ThreadId) :
    List Deed :=
  deeds config now (e.earlier id) { environment := e, host }

def deedsBehind (config : Config) (now : Tick) (e : Environment) (host : σ) (id : ThreadId) :
    List Deed :=
  deeds config now (e.later id) ((atTurn config now e host id).turn config now id)

section Sleeper

variable {host : σ}

theorem tickDeeds_eq (member : id ∈ e.threadIds) :
    tickDeeds config now e host = deedsBefore config now e host id ++
      deeds config now [id] (atTurn config now e host id) ++ deedsBehind config now e host id := by
  rw [tickDeeds, threadIds_split member, List.append_cons, deeds_append, deeds_append,
    List.foldl_append]
  rfl

variable (h : e.Filed count) (room : Deed.Numbered count (tickDeeds config now e host))

include h room

theorem grown_atTurn (member : id ∈ e.threadIds) :
    Grown count e (deedsBefore config now e host id) (atTurn config now e host id).environment :=
  h.foldl_turn (threadIds_split member) room

theorem thread?_atTurn (member : id ∈ e.threadIds) :
    (atTurn config now e host id).environment.thread? id =
      (e.thread? id).filter (Deed.survives (deedsBefore config now e host id)) := by
  rw [tickDeeds_eq member] at room
  exact foldl_turn_thread? (s := { environment := e, host }) (.refl h)
    (fun _ => List.mem_of_mem_filter) room.of_append.of_append member not_mem_earlier

theorem thread?_runTick (member : id ∈ e.threadIds) :
    (runTick config now e host).environment.thread? id =
      (((atTurn config now e host id).turn config now id).environment.thread? id).filter
        (Deed.survives (deedsBehind config now e host id)) := by
  have grown := grown_atTurn h room member
  rw [tickDeeds_eq member] at room
  have turn := turn_cases config now (atTurn config now e host id) id
  simp only [runTick, environment_close]
  rw [threadIds_split member, List.foldl_append, List.foldl_cons]
  exact foldl_turn_thread? (turn.grown grown member room.of_append)
    (fun _ => List.mem_of_mem_filter) room member not_mem_later

theorem mem_blocked_runTick :
    id ∈ (runTick config now e host).report.blocked ↔ id ∈ e.threadIds ∧
      ∃ t reason, (runTick config now e host).environment.thread? id = some t ∧
        t.state = .blocked reason :=
  (tally_scheduled h room).mem_blocked_close

theorem mem_ran_runTick :
    id ∈ (runTick config now e host).report.ran ↔ ∃ t,
      (atTurn config now e host id).environment.thread? id = some t ∧
        isDue (atTurn config now e host id).host now t = true ∧ id ∈ e.threadIds := by
  refine (mem_ran_foldl_turn h room).trans ?_
  constructor
  · rintro ⟨before, after, split, t, found, due⟩
    rw [atTurn, earlier_eq split]
    refine ⟨t, found, due, ?_⟩
    simp [split]
  · rintro ⟨t, found, due, member⟩
    exact ⟨_, _, threadIds_split member, t, found, due⟩

omit h room in
theorem isDue_of_asleep {deadline : Tick} (state : t.state = .blocked (.sleep deadline))
    (host : σ) : isDue host now t = decide (deadline ≤ now) := by
  rw [isDue, state]
  rfl

omit h room in
theorem Turn.environment_of_idle {count : Nat} (turn : Turn config now s id s')
    (filed : s.environment.Filed count) (idle : s.dispatch? now id = none) :
    s'.environment = s.environment := by
  cases turn with
  | gone => rfl
  | held => rfl
  | runs found due =>
    rw [dispatch?_eq_some_iff.mpr ⟨_, found, due, rfl⟩] at idle
    cases idle
  | dropped found stuck =>
    rw [filed.runnable found] at stuck
    cases stuck

variable (found : e.thread? id = some t)

include found

theorem dispatch?_of_held (held : isDue (atTurn config now e host id).host now t = false) :
    (atTurn config now e host id).dispatch? now id = none := by
  rw [Option.eq_none_iff_forall_ne_some]
  intro m running
  obtain ⟨t', there, due, -⟩ := dispatch?_eq_some_iff.mp running
  rw [thread?_atTurn h room (mem_threadIds.mpr ⟨t, found⟩), found] at there
  cases (Option.filter_eq_some_iff.mp there).1
  rw [held] at due
  cases due

theorem not_mem_ran_of_held (held : isDue (atTurn config now e host id).host now t = false) :
    id ∉ (runTick config now e host).report.ran := by
  rw [mem_ran_runTick h room]
  rintro ⟨t', there, due, -⟩
  have running := dispatch?_eq_some_iff.mpr ⟨t', there, due, rfl⟩
  rw [dispatch?_of_held h room found held] at running
  cases running

theorem thread?_runTick_of_held (held : isDue (atTurn config now e host id).host now t = false) :
    (runTick config now e host).environment.thread? id = some t ∧
        ¬Deed.Strike (deedsBefore config now e host id ++ deedsBehind config now e host id) t ∨
      (runTick config now e host).environment.thread? id = none ∧
        Deed.Strike (deedsBefore config now e host id ++ deedsBehind config now e host id) t := by
  have member := mem_threadIds.mpr ⟨t, found⟩
  have filed := (grown_atTurn h room member).filed
  have same := (turn_cases config now (atTurn config now e host id) id).environment_of_idle filed
    (dispatch?_of_held h room found held)
  rw [thread?_runTick h room member, same, thread?_atTurn h room member, found,
    ← Deed.filter_survives_append]
  exact Deed.filter_survives_cases ..

theorem wakes_of_due (due : isDue (atTurn config now e host id).host now t = true) :
    (atTurn config now e host id).environment.thread? id = some t ∧
        id ∈ (runTick config now e host).report.ran ∧
        ¬Deed.Strike (deedsBefore config now e host id) t ∨
      (atTurn config now e host id).environment.thread? id = none ∧
        id ∉ (runTick config now e host).report.ran ∧
        Deed.Strike (deedsBefore config now e host id) t := by
  have member := mem_threadIds.mpr ⟨t, found⟩
  have there := thread?_atTurn h room member
  rw [found] at there
  rw [mem_ran_runTick h room, there]
  obtain ⟨spared, none⟩ | ⟨gone, strike⟩ :=
    Deed.filter_survives_cases (deedsBefore config now e host id) t
  · exact .inl ⟨spared, ⟨t, spared, due, member⟩, none⟩
  · refine .inr ⟨gone, ?_, strike⟩
    rw [gone]
    rintro ⟨t', ⟨⟩, -⟩

end Sleeper

end TickState

end UnitScript
