import Mathlib.Data.List.Basic
import UnitScript.Proofs.Interpreter.Execution
import UnitScript.Proofs.Tick.Growth
import UnitScript.Sandbox

namespace UnitScript

theorem Thread.intercepts_iff {t : Thread} {signal : UInt32} :
    t.intercepts signal = true ↔ t.mask &&& signal ≠ 0 := by
  simp [Thread.intercepts]

theorem Deed.spares_iff {d : Deed} {t : Thread} :
    d.spares t = true ↔ ∀ bits, d = .signal bits → t.mask &&& bits = 0 := by
  cases d <;> simp [spares, Thread.intercepts]

namespace Environment

variable {e e' : Environment} {ds : List Deed} {id : ThreadId} {t : Thread}

theorem Evolves.thread?_eq_none_of_born (h : e.Evolves ds e') (fresh : e.Fresh)
    (born : t ∈ Deed.born ds) : e.thread? t.id = none := by
  refine Option.eq_none_iff_forall_ne_some.mpr fun t' found => ?_
  have below := UInt64.lt_iff_toNat_lt.mp (fresh t.id t' found)
  have above := (h.id_bounds born).1
  omega

theorem Evolves.thread?_eq (h : e.Evolves ds e') (fresh : e.Fresh)
    (found : e.thread? id = some t) :
    e'.thread? id = if Deed.survives ds t then some t else none := by
  refine Option.ext fun t' => ?_
  rw [h.thread?_iff]
  constructor
  · rintro (⟨found', survives⟩ | ⟨alive, rfl⟩)
    · cases found.symm.trans found'
      exact if_pos survives
    · rw [h.thread?_eq_none_of_born fresh (Deed.mem_born_of_mem_alive alive)] at found
      cases found
  · intro stays
    split at stays
    · next survives =>
      cases stays
      exact .inl ⟨found, survives⟩
    · cases stays

end Environment

namespace Execution

variable {σ : Type} [Host σ] {config : Config} {now : Tick} {x : Execution σ}
  {xs : List (Execution σ)} {t : Thread}

theorem Genuine.stop_eq_killed_iff (h : x.Genuine config now) {signal : UInt32} :
    x.step.stop = some (.killed signal) ↔
      x.signal? = some signal ∧ x.machine.thread.mask &&& signal ≠ 0 := by
  obtain ⟨machine, instr, step⟩ := x
  have shape := h.shape
  dsimp only at shape
  cases shape with
  | plain plain =>
    rw [signal?_of_plain plain]
    exact iff_of_false nofun nofun
  | @signals value stack hstack =>
    simp only at hstack
    simp only [signal?, Stack.top?, hstack, Stack.items_push, List.head?_cons, Option.map_some,
      Option.some.injEq]
    constructor
    · intro killed
      split at killed
      · next heard =>
        cases killed
        exact ⟨rfl, Thread.intercepts_iff.mp heard⟩
      · cases killed
    · rintro ⟨rfl, heard⟩
      exact if_pos (Thread.intercepts_iff.mpr heard)
  | _ => simp [signal?]

theorem survives_iff (genuine : ∀ x ∈ xs, x.Genuine config now) :
    Deed.survives (xs.map (·.step.deed)) t = true ↔
      ∀ x ∈ xs, ∀ bits, x.signal? = some bits → t.mask &&& bits = 0 := by
  simp only [Deed.survives, List.all_map, List.all_eq_true, Function.comp_apply, Deed.spares_iff]
  refine forall₂_congr fun x member => forall_congr' fun bits => ?_
  rw [(genuine x member).deed_eq_signal_iff]

omit [Host σ] in
theorem mem_alive_iff :
    t ∈ Deed.alive (xs.map (·.step.deed)) ↔ ∃ before x later, xs = before ++ x :: later ∧
      x.step.deed.started? = some t ∧ Deed.survives (later.map (·.step.deed)) t = true := by
  induction xs with
  | nil => simp [Deed.alive]
  | cons first rest ih =>
    rw [List.map_cons, Deed.alive, List.mem_append, Option.mem_toList, Option.filter_eq_some_iff,
      ih]
    constructor
    · rintro (⟨started, survives⟩ | ⟨before, x, later, rfl, h⟩)
      · exact ⟨[], first, rest, rfl, started, survives⟩
      · exact ⟨first :: before, x, later, rfl, h⟩
    · rintro ⟨before, x, later, split, h⟩
      cases before with
      | nil =>
        cases split
        exact .inl h
      | cons _ before =>
        cases split
        exact .inr ⟨before, x, later, rfl, h⟩

end Execution

namespace Machine

open Environment

variable {σ : Type} [Host σ] {config : Config} {now : Tick} {m : Machine σ} {budget : Nat}

theorem length_born_deeds (config : Config) (now : Tick) (budget : Nat) (m : Machine σ) :
    (Deed.born (m.deeds config now budget)).length =
      ((m.trace config now budget).filterMap Execution.started?).length := by
  have pairs : (Deed.born (m.deeds config now budget)).map (fun t => (t.id, t.mask)) =
      (m.trace config now budget).filterMap Execution.started? := by
    rw [← map_deed_trace, Deed.born, List.map_filterMap, List.filterMap_map]
    exact List.filterMap_congr fun x member => (genuine_of_mem_trace member).map_started?
  rw [← pairs, List.length_map]

theorem run_eq_killed_iff {signal : UInt32} :
    (m.run config now budget).1 = .killed signal ↔ ∃ x,
      (m.trace config now budget).getLast? = some x ∧ x.signal? = some signal ∧
        x.machine.thread.mask &&& signal ≠ 0 := by
  induction budget generalizing m with
  | zero => simp [run, trace]
  | succ budget ih =>
    cases worked : m.step config now with
    | error kind => simp [run, trace, worked]
    | ok s =>
      obtain ⟨i, fetched, -⟩ := step_shape worked
      have genuine : Execution.Genuine config now ⟨m, i, s⟩ := ⟨fetched, worked⟩
      have killed : s.stop = some (.killed signal) ↔ _ := genuine.stop_eq_killed_iff
      cases stop : s.stop with
      | none =>
        rw [stop] at killed
        simp only [run, trace, worked, fetched, stop, ih, List.getLast?_cons]
        cases (trace config now budget (perform s.thread m.environment m.host s.deed)).getLast? with
        | none => simpa using killed
        | some y => simp
      | some halt =>
        rw [stop] at killed
        simp only [run, trace, worked, fetched, stop, List.getLast?_singleton, Option.some.injEq,
          exists_eq_left', ← killed]
        cases halt <;> simp [Halt.status]

theorem spared_of_killed {signal : UInt32} (killed : (m.run config now budget).1 = .killed signal)
    {id : ThreadId} {t : Thread}
    (found : (m.run config now budget).2.environment.thread? id = some t) :
    t.mask &&& signal = 0 := by
  obtain ⟨last, -, ending⟩ := run_ends config now budget m
  generalize m.run config now budget = r at killed found ending
  cases ending with
  | exhausted => cases killed
  | faulted error => cases killed
  | @halted s halt worked stop =>
    obtain ⟨i, fetched, -⟩ := step_shape worked
    have genuine : Execution.Genuine config now ⟨last, i, s⟩ := ⟨fetched, worked⟩
    cases halt with
    | blocked reason => cases killed
    | finished => cases killed
    | killed bits =>
      cases killed
      have sent := genuine.deed_eq_signal_iff.mpr (genuine.stop_eq_killed_iff.mp stop).1
      dsimp only at sent
      rw [environment_settle, environment_perform, sent] at found
      simp only [carryOut, thread?_sendSignal, Option.filter_eq_some_iff] at found
      simpa [Thread.intercepts] using found.2

theorem exists_alive_iff {id : ThreadId} {mask : UInt32} :
    (∃ t ∈ Deed.alive (m.deeds config now budget), t.id = id ∧ t.mask = mask) ↔
      ∃ before x later, m.trace config now budget = before ++ x :: later ∧
        x.started? = some (id, mask) ∧
        ∀ y ∈ later, ∀ bits, y.signal? = some bits → mask &&& bits = 0 := by
  simp only [← map_deed_trace, Execution.mem_alive_iff]
  constructor
  · rintro ⟨t, ⟨before, x, later, split, started, survives⟩, rfl, rfl⟩
    have genuine (y) (member : y ∈ before ++ x :: later) : y.Genuine config now :=
      genuine_of_mem_trace (split ▸ member)
    refine ⟨before, x, later, split, ?_, ?_⟩
    · rw [← (genuine x (by simp)).map_started?, started]
      rfl
    · exact (Execution.survives_iff fun y member => genuine y (by simp [member])).mp survives
  · rintro ⟨before, x, later, split, born, spared⟩
    have genuine (y) (member : y ∈ before ++ x :: later) : y.Genuine config now :=
      genuine_of_mem_trace (split ▸ member)
    rw [← (genuine x (by simp)).map_started?, Option.map_eq_some_iff] at born
    obtain ⟨t, started, ⟨⟩⟩ := born
    refine ⟨t, ⟨before, x, later, split, started, ?_⟩, rfl, rfl⟩
    exact (Execution.survives_iff fun y member => genuine y (by simp [member])).mpr spared

theorem thread?_run_iff {id : ThreadId} {t : Thread} (fresh : m.environment.Fresh)
    (evolves : m.environment.Evolves (m.deeds config now budget)
      (m.run config now budget).2.environment)
    (found : m.environment.thread? id = some t) :
    ((m.run config now budget).2.environment.thread? id = some t ∨
      (m.run config now budget).2.environment.thread? id = none) ∧
    ((m.run config now budget).2.environment.thread? id = none ↔
      ∃ x ∈ m.trace config now budget, ∃ bits, x.signal? = some bits ∧ t.mask &&& bits ≠ 0) := by
  have survives : Deed.survives ((m.trace config now budget).map (·.step.deed)) t = true ↔ _ :=
    Execution.survives_iff fun _ => genuine_of_mem_trace
  rw [map_deed_trace] at survives
  rw [evolves.thread?_eq fresh found]
  split
  · next spared =>
    refine ⟨.inl rfl, iff_of_false nofun ?_⟩
    rintro ⟨x, member, bits, sent, met⟩
    exact met (survives.mp spared x member bits sent)
  · next ended =>
    refine ⟨.inr rfl, iff_of_true rfl ?_⟩
    simpa [survives] using ended

theorem new_thread?_run_iff {id : ThreadId} {mask : UInt32} (fresh : m.environment.Fresh)
    (evolves : m.environment.Evolves (m.deeds config now budget)
      (m.run config now budget).2.environment) :
    (m.environment.thread? id = none ∧
      ∃ t, (m.run config now budget).2.environment.thread? id = some t ∧ t.mask = mask) ↔
    ∃ t ∈ Deed.alive (m.deeds config now budget), t.id = id ∧ t.mask = mask := by
  constructor
  · rintro ⟨missing, t, found, same⟩
    obtain ⟨known, -⟩ | ⟨alive, named⟩ := (evolves.thread?_iff id t).mp found
    · rw [missing] at known
      cases known
    · exact ⟨t, alive, named, same⟩
  · rintro ⟨t, alive, rfl, same⟩
    refine ⟨evolves.thread?_eq_none_of_born fresh (Deed.mem_born_of_mem_alive alive), t, ?_, same⟩
    exact (evolves.thread?_iff t.id t).mpr (.inr ⟨alive, rfl⟩)

/-- A run leaves every other thread as it is or, by a signal that meets its mask, ends it. It adds
the threads that it starts and does not end itself, each with the mask that it had itself at that
time. It is killed just by its own signal, and then nobody is left who hears that signal. -/
theorem run_isolates (config : Config) (now : Tick) (budget : Nat) {e : Environment} {count : Nat}
    (reachable : e.Reachable count)
    (detached : m.environment = e.detach m.thread.id)
    (room : count + ((m.trace config now budget).filterMap Execution.started?).length
      < UInt64.size - 1) :
    (∀ id t, m.environment.thread? id = some t →
      ((m.run config now budget).2.environment.thread? id = some t ∨
        (m.run config now budget).2.environment.thread? id = none) ∧
      ((m.run config now budget).2.environment.thread? id = none ↔
        ∃ x ∈ m.trace config now budget, ∃ bits,
          x.signal? = some bits ∧ t.mask &&& bits ≠ 0)) ∧
    (∀ id mask,
      (m.environment.thread? id = none ∧
        ∃ t, (m.run config now budget).2.environment.thread? id = some t ∧ t.mask = mask) ↔
      ∃ before x later, m.trace config now budget = before ++ x :: later ∧
        x.started? = some (id, mask) ∧
        ∀ y ∈ later, ∀ bits, y.signal? = some bits → mask &&& bits = 0) ∧
    ∀ signal,
      ((m.run config now budget).1 = .killed signal ↔ ∃ x,
        (m.trace config now budget).getLast? = some x ∧ x.signal? = some signal ∧
          x.machine.thread.mask &&& signal ≠ 0) ∧
      ((m.run config now budget).1 = .killed signal →
        ∀ id t, (m.run config now budget).2.environment.thread? id = some t →
          t.mask &&& signal = 0) := by
  rw [← length_born_deeds] at room
  have filed := reachable.filed (Nat.lt_of_le_of_lt (Nat.le_add_right ..) room)
  have fresh : m.environment.Fresh := detached ▸ (filed.detach m.thread.id).fresh
  have next : m.environment.nextThread.toNat = count + 1 := detached ▸ filed.nextThread
  have evolves := run_evolves config now budget m fresh (by omega)
  refine ⟨fun id t => thread?_run_iff fresh evolves, ?_, ?_⟩
  · intro id mask
    rw [new_thread?_run_iff fresh evolves, exists_alive_iff]
  · intro signal
    exact ⟨run_eq_killed_iff, fun killed id t => spared_of_killed killed⟩

def uproar : Module where
  definition :=
    { scripts := #[{ name := "Main", offset := 0 }, { name := "Listen", offset := 12 }]
      code := #[.pushConstant 1, .setSignalMask, .startScript ⟨1⟩ 0, .pushConstant 2,
        .setSignalMask, .startScript ⟨1⟩ 0, .pushConstant 1, .sendSignal, .pushConstant 4,
        .setSignalMask, .pushConstant 4, .sendSignal, .returnFromScript] }
  checked := by decide +kernel

def uproarMachine (e : Environment) : Machine Recorder where
  thread := .start 1 ⟨0⟩ { name := "Main", offset := 0 } [] 0
  environment := e.detach 1
  host := { pieces := .ofCount 0 }

theorem uproar_isolates :
    ∃ e, Reachable 3 e ∧ ((uproarMachine e).run {} 0 20).1 = .killed 4 ∧
      ((uproarMachine e).run {} 0 20).2.environment.threadIds = [3, 5] ∧
      (∃ x ∈ (uproarMachine e).trace {} 0 20, ∃ bits, x.signal? = some bits ∧ 1 &&& bits ≠ 0) ∧
      (∃ x, ((uproarMachine e).trace {} 0 20).getLast? = some x ∧ x.signal? = some 4) ∧
      ∃ before x later, (uproarMachine e).trace {} 0 20 = before ++ x :: later ∧
        x.started? = some (5, 2) ∧ ∀ y ∈ later, ∀ bits, y.signal? = some bits → 2 &&& bits = 0 := by
  have main := (Reachable.create uproar 1 0).createThread
    (show Environment.createThread _ ⟨0⟩ [] 0 = .ok (1, _) from rfl)
  have listener := main.createThread
    (show Environment.createThread _ ⟨1⟩ [] 1 = .ok (2, _) from rfl)
  have deaf := listener.createThread
    (show Environment.createThread _ ⟨1⟩ [] 8 = .ok (3, _) from rfl)
  obtain ⟨others, added, killed⟩ :=
    run_isolates (m := uproarMachine _) {} 0 20 deaf rfl (by decide +kernel)
  refine ⟨_, deaf, by decide +kernel, by decide +kernel, ?_, ?_, ?_⟩
  · exact (others 2 (.start 2 ⟨1⟩ { name := "Listen", offset := 12 } [] 1) (by decide +kernel)).2.mp
      (by decide +kernel)
  · obtain ⟨x, last, sent, -⟩ := (killed 4).1.mp (by decide +kernel)
    exact ⟨x, last, sent⟩
  · exact (added 5 2).mp ⟨by decide +kernel,
      .start 5 ⟨1⟩ { name := "Listen", offset := 12 } [] 2, by decide +kernel, rfl⟩

end Machine

end UnitScript
