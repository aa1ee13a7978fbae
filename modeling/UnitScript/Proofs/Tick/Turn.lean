import UnitScript.Proofs.Interpreter.Run
import UnitScript.Tick

namespace UnitScript

theorem TickReport.ran_record (r : TickReport) (id : ThreadId) (status : Status) :
    (r.record id status).ran = r.ran.push id := by
  cases status <;> rfl

namespace TickState

variable {σ : Type} [Host σ]

def isDue (host : σ) (now : Tick) (t : Thread) : Bool :=
  match t.state with
  | .ready => true
  | .blocked reason => isCleared host now reason
  | .finished | .faulted _ => false

def dispatch? (now : Tick) (s : TickState σ) (id : ThreadId) : Option (Machine σ) :=
  ((s.environment.thread? id).filter (isDue s.host now)).map fun t =>
    { thread := t.wake, environment := s.environment.detach id, host := s.host }

def machines (config : Config) (now : Tick) : List ThreadId → TickState σ → List (Machine σ)
  | [], _ => []
  | id :: rest, s => (s.dispatch? now id).toList ++ machines config now rest (s.turn config now id)

inductive Turn (config : Config) (now : Tick) (s : TickState σ) (id : ThreadId) :
    TickState σ → Prop
  | gone : s.environment.thread? id = none → Turn config now s id s
  | held {t : Thread} {reason : BlockReason} : s.environment.thread? id = some t →
    t.state = .blocked reason → isCleared s.host now reason = false →
      Turn config now s id
        { s with report := { s.report with blocked := s.report.blocked.push id } }
  | runs {t : Thread} : s.environment.thread? id = some t → isDue s.host now t = true →
    Turn config now s id
      (runThread config now (s.environment.detach id) s.host s.report t.wake)
  | dropped {t : Thread} : s.environment.thread? id = some t → t.isRunnable = false →
    Turn config now s id { s with environment := s.environment.detach id }

variable {config : Config} {now : Tick} {s : TickState σ} {id : ThreadId}

theorem turn_cases (config : Config) (now : Tick) (s : TickState σ) (id : ThreadId) :
    Turn config now s id (s.turn config now id) := by
  unfold turn
  split
  · next missing => exact .gone missing
  · next t found =>
    dsimp only
    split
    · next ready =>
      have awake : t.wake = t := by
        obtain ⟨id, ip, stack, frames, mask, state⟩ := t
        cases ready
        rfl
      rw [← awake]
      exact .runs found (by simp [isDue, ready])
    · next reason blocked =>
      split
      · next cleared => exact .runs found (by simp [isDue, blocked, cleared])
      · next waits => exact .held found blocked (by simpa using waits)
    · next finished => exact .dropped found (by simp [Thread.isRunnable, finished])
    · next fault faulted => exact .dropped found (by simp [Thread.isRunnable, faulted])

theorem dispatch?_eq_some_iff {m : Machine σ} :
    s.dispatch? now id = some m ↔ ∃ t, s.environment.thread? id = some t ∧
      isDue s.host now t = true ∧
      m = { thread := t.wake, environment := s.environment.detach id, host := s.host } := by
  simp only [dispatch?, Option.map_eq_some_iff, Option.filter_eq_some_iff]
  constructor
  · rintro ⟨t, ⟨found, due⟩, rfl⟩
    exact ⟨t, found, due, rfl⟩
  · rintro ⟨t, found, due, rfl⟩
    exact ⟨t, ⟨found, due⟩, rfl⟩

theorem dispatch?_of_missing (missing : s.environment.thread? id = none) :
    s.dispatch? now id = none := by
  simp [dispatch?, missing]

theorem dispatch?_of_idle {t : Thread} (found : s.environment.thread? id = some t)
    (idle : isDue s.host now t = false) : s.dispatch? now id = none := by
  simp [dispatch?, found, Option.filter_some, idle]

theorem isDue_of_held {host : σ} {t : Thread} {reason : BlockReason}
    (blocked : t.state = .blocked reason) (waits : isCleared host now reason = false) :
    isDue host now t = false := by
  rw [isDue, blocked]
  exact waits

theorem isDue_of_stuck {host : σ} {t : Thread} (stuck : t.isRunnable = false) :
    isDue host now t = false := by
  unfold Thread.isRunnable at stuck
  unfold isDue
  cases state : t.state with
  | ready => simp [state] at stuck
  | blocked reason => simp [state] at stuck
  | finished => rfl
  | faulted fault => rfl

theorem dispatch?_sound {m : Machine σ} (h : s.environment.Sound config)
    (dispatched : s.dispatch? now id = some m) : m.Sound config := by
  obtain ⟨t, found, -, rfl⟩ := dispatch?_eq_some_iff.mp dispatched
  have thread := h.wellFormed found
  exact ⟨thread.of_frames rfl thread.ip_le thread.stack_le, rfl, h.detach id⟩

theorem Turn.module_eq {s' : TickState σ} (h : Turn config now s id s') :
    s'.environment.module = s.environment.module := by
  cases h with
  | gone => rfl
  | held => rfl
  | runs found due =>
    simp only [runThread]
    split <;> simp [Environment.restore, Environment.detach]
  | dropped => rfl

theorem Turn.size_pieces [LawfulHost σ] {s' : TickState σ} (h : Turn config now s id s') :
    (Host.pieces s'.host).size = (Host.pieces s.host).size := by
  cases h with
  | gone => rfl
  | held => rfl
  | runs found due => simp [runThread]
  | dropped => rfl

theorem Turn.sound {s' : TickState σ} (turn : Turn config now s id s')
    (h : s.environment.Sound config) : s'.environment.Sound config := by
  cases turn with
  | gone => exact h
  | held => exact h
  | @runs t found due =>
    have machine := dispatch?_sound h (dispatch?_eq_some_iff.mpr ⟨t, found, due, rfl⟩)
    have environment := machine.run_environment now config.runtime.maxInstructionsPerRun
    simp only [runThread]
    split
    · next live =>
      obtain ⟨wellFormed, atRest⟩ := machine.run_thread live
      refine environment.restore ?_ ?_
      · rw [Machine.module_run]
        exact wellFormed
      · rw [Machine.module_run]
        exact atRest
    · exact environment
  | dropped => exact h.detach id

theorem foldl_turn_induction {P : TickState σ → Prop} (ids : List ThreadId) (start : P s)
    (turn : ∀ s id, P s → P (s.turn config now id)) :
    P (ids.foldl (TickState.turn config now) s) := by
  induction ids generalizing s with
  | nil => exact start
  | cons id rest ih => exact ih (turn s id start)

theorem machines_append (config : Config) (now : Tick) (ids ids' : List ThreadId)
    (s : TickState σ) :
    machines config now (ids ++ ids') s =
      machines config now ids s ++ machines config now ids' (ids.foldl (turn config now) s) := by
  induction ids generalizing s with
  | nil => rfl
  | cons id rest ih => simp [machines, ih]

section Report

variable {α : Type} {view : TickReport → List α} {entry : ThreadId → Status → List α}

theorem Turn.report_eq {s' : TickState σ}
    (held : ∀ (r : TickReport) id, view { r with blocked := r.blocked.push id } = view r)
    (record : ∀ (r : TickReport) id status, view (r.record id status) = view r ++ entry id status)
    (turn : Turn config now s id s') :
    view s'.report = view s.report ++ (s.dispatch? now id).toList.flatMap fun m =>
      entry m.thread.id (m.run config now config.runtime.maxInstructionsPerRun).1 := by
  cases turn with
  | gone missing => simp [dispatch?_of_missing missing]
  | held found blocked waits =>
    simp [dispatch?_of_idle found (isDue_of_held blocked waits), held]
  | @runs t found due =>
    rw [dispatch?_eq_some_iff.mpr ⟨t, found, due, rfl⟩]
    simp [runThread, record]
  | dropped found stuck => simp [dispatch?_of_idle found (isDue_of_stuck stuck)]

theorem report_foldl_turn (view : TickReport → List α) (entry : ThreadId → Status → List α)
    (held : ∀ (r : TickReport) id, view { r with blocked := r.blocked.push id } = view r)
    (record : ∀ (r : TickReport) id status, view (r.record id status) = view r ++ entry id status)
    (ids : List ThreadId) (s : TickState σ) :
    view (ids.foldl (turn config now) s).report =
      view s.report ++ (machines config now ids s).flatMap fun m =>
        entry m.thread.id (m.run config now config.runtime.maxInstructionsPerRun).1 := by
  induction ids generalizing s with
  | nil => simp [machines]
  | cons id rest ih =>
    rw [List.foldl_cons, ih, (turn_cases config now s id).report_eq held record, machines,
      List.flatMap_append, List.append_assoc]

end Report

theorem ran_foldl_turn (config : Config) (now : Tick) (ids : List ThreadId) (s : TickState σ) :
    (ids.foldl (turn config now) s).report.ran.toList =
      s.report.ran.toList ++ (machines config now ids s).map (·.thread.id) := by
  rw [List.map_eq_flatMap]
  refine report_foldl_turn (·.ran.toList) (fun id _ => [id]) ?_ ?_ ids s
  · intro r id
    rfl
  · intro r id status
    rw [TickReport.ran_record, Array.toList_push]

def faultEntry (id : ThreadId) : Status → List (ThreadId × Fault)
  | .faulted fault => [(id, fault)]
  | _ => []

theorem faulted_foldl_turn (config : Config) (now : Tick) (ids : List ThreadId)
    (s : TickState σ) :
    (ids.foldl (turn config now) s).report.faulted.toList =
      s.report.faulted.toList ++ (machines config now ids s).flatMap fun m =>
        faultEntry m.thread.id (m.run config now config.runtime.maxInstructionsPerRun).1 := by
  refine report_foldl_turn (·.faulted.toList) faultEntry ?_ ?_ ids s
  · intro r id
    rfl
  · intro r id status
    cases status <;> simp [TickReport.record, faultEntry]

theorem mem_faulted_foldl_turn {ids : List ThreadId} {thread : ThreadId} {fault : Fault}
    (fresh : s.report.faulted = #[]) :
    (thread, fault) ∈ (ids.foldl (turn config now) s).report.faulted ↔
      ∃ m ∈ machines config now ids s, m.thread.id = thread ∧
        (m.run config now config.runtime.maxInstructionsPerRun).1 = .faulted fault := by
  rw [← Array.mem_toList_iff, faulted_foldl_turn, fresh, List.nil_append, List.mem_flatMap]
  refine exists_congr fun m => and_congr_right fun _ => ?_
  generalize (m.run config now config.runtime.maxInstructionsPerRun).1 = status
  cases status <;> simp [faultEntry, eq_comm]

theorem mem_machines_iff {ids : List ThreadId} {m : Machine σ} :
    m ∈ machines config now ids s ↔ ∃ before id after, ids = before ++ id :: after ∧
      (before.foldl (turn config now) s).dispatch? now id = some m := by
  induction ids generalizing s with
  | nil => simp [machines]
  | cons id rest ih =>
    rw [machines, List.mem_append, Option.mem_toList, ih]
    constructor
    · rintro (here | ⟨before, id', after, rfl, later⟩)
      · exact ⟨[], id, rest, rfl, here⟩
      · exact ⟨id :: before, id', after, rfl, later⟩
    · rintro ⟨before, id', after, split, dispatched⟩
      cases before with
      | nil =>
        cases split
        exact .inl dispatched
      | cons first before =>
        cases split
        exact .inr ⟨before, id', after, rfl, dispatched⟩

theorem exists_of_mem_machines {P : TickState σ → Prop} {ids : List ThreadId} (start : P s)
    (turn : ∀ s id, P s → P (s.turn config now id)) {m : Machine σ}
    (member : m ∈ machines config now ids s) :
    ∃ s id, P s ∧ s.dispatch? now id = some m := by
  obtain ⟨before, id, after, -, dispatched⟩ := mem_machines_iff.mp member
  exact ⟨_, id, foldl_turn_induction before start turn, dispatched⟩

end TickState

section Tick

variable {σ : Type} [Host σ] {config : Config} {e : Environment}

omit [Host σ] in
@[simp] theorem environment_close (s : TickState σ) (ids : List ThreadId) :
    (s.close ids).environment = s.environment := rfl

omit [Host σ] in
@[simp] theorem host_close (s : TickState σ) (ids : List ThreadId) :
    (s.close ids).host = s.host := rfl

theorem sound_runTick (h : e.Sound config) (now : Tick) (host : σ) :
    (runTick config now e host).environment.Sound config := by
  rw [runTick, environment_close]
  exact TickState.foldl_turn_induction (P := fun s => s.environment.Sound config) _ h
    fun s id h => (TickState.turn_cases config now s id).sound h

@[simp] theorem module_runTick (config : Config) (now : Tick) (e : Environment) (host : σ) :
    (runTick config now e host).environment.module = e.module := by
  rw [runTick, environment_close]
  refine TickState.foldl_turn_induction (P := fun s => s.environment.module = e.module) _ rfl ?_
  intro s id h
  rw [(TickState.turn_cases config now s id).module_eq, h]

@[simp] theorem size_pieces_runTick [LawfulHost σ] (config : Config) (now : Tick)
    (e : Environment) (host : σ) :
    (Host.pieces (runTick config now e host).host).size = (Host.pieces host).size := by
  rw [runTick, host_close]
  refine TickState.foldl_turn_induction
    (P := fun s => (Host.pieces s.host).size = (Host.pieces host).size) _ rfl ?_
  intro s id h
  rw [(TickState.turn_cases config now s id).size_pieces, h]

end Tick

end UnitScript
