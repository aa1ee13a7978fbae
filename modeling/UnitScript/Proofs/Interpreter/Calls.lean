import UnitScript.Proofs.Interpreter.Execution

namespace UnitScript

namespace Execution

variable {σ : Type} [Host σ] {config : Config} {now : Tick} {x : Execution σ}

def after (x : Execution σ) : Thread :=
  let done := Machine.perform x.step.thread x.machine.environment x.machine.host x.step.deed
  match x.step.stop with
  | none => done.thread
  | some halt => (done.settle halt).thread

def ends (x : Execution σ) : Bool :=
  match x.step.stop with
  | some .finished | some (.killed _) => true
  | _ => false

def left (x : Execution σ) : Option Thread := if x.ends then none else some x.after

inductive Change (x : Execution σ) : Prop
  | call {frame : Frame} : x.after.frames.items = frame :: x.machine.thread.frames.items → Change x
  | back {frame : Frame} : x.instr = .returnFromScript →
    x.machine.thread.frames.items = frame :: x.after.frames.items →
      frame.returnIp = some x.after.ip → x.after.stack = x.machine.thread.stack → Change x
  | within : x.after.frames.items =
    x.machine.thread.frames.items.modifyHead x.step.deed.onFrame → Change x
  | gone : x.ends = true → Change x

theorem Genuine.change (h : x.Genuine config now) : x.Change := by
  obtain ⟨machine, instr, step⟩ := x
  have shape := h.shape
  dsimp only at shape
  cases shape with
  | plain | starts | masks | passes => exact .within (by simp [after])
  | sleeps | waits => exact .within (by simp [after, Machine.settle, Thread.block])
  | calls => exact .call rfl
  | returns top back => exact .back rfl (by rw [top]; rfl) back rfl
  | finishes => exact .gone rfl
  | @signals value stack hstack =>
    by_cases heard : Thread.intercepts { machine.thread with ip := machine.thread.ip + 1 }
        value.toUInt32 = true
    · exact .gone (by simp [ends, heard])
    · exact .within (by simp [after, heard])

theorem Genuine.exists_of_call (h : x.Genuine config now) {script : ScriptId} {argc : UInt8}
    (call : x.instr = .callScript script argc) :
    ∃ frame, frame.returnIp = some (x.machine.thread.ip + 1) ∧
      x.after.frames.items = frame :: x.machine.thread.frames.items := by
  obtain ⟨machine, instr, step⟩ := x
  cases call
  have shape := h.shape
  dsimp only at shape
  cases shape with
  | plain plain => cases plain
  | calls => exact ⟨_, rfl, rfl⟩

/-- Frames, the top one first, that stand on `base`, the lowest of them with a way back as `Q`
says. -/
def Over (Q : Option Nat → Prop) (base items : List Frame) : Prop :=
  ∃ above frame, items = above ++ frame :: base ∧ Q frame.returnIp

theorem Change.onBase {Q : Option Nat → Prop} {base : List Frame} (change : x.Change)
    (goesOn : x.ends = false) (h : Over Q base x.machine.thread.frames.items) :
    Over Q base x.after.frames.items ∨
      x.instr = .returnFromScript ∧ x.after.frames.items = base ∧ Q (some x.after.ip) ∧
        x.after.stack = x.machine.thread.stack := by
  obtain ⟨above, lowest, items, back⟩ := h
  cases change with
  | @call frame pushed =>
    refine .inl ⟨frame :: above, lowest, ?_, back⟩
    rw [pushed, items]
    rfl
  | @back frame instr popped returnIp stack =>
    rw [items] at popped
    cases above with
    | nil =>
      obtain ⟨rfl, rest⟩ := List.cons.inj popped
      exact .inr ⟨instr, rest.symm, returnIp ▸ back, stack⟩
    | cons _ above =>
      obtain ⟨-, rest⟩ := List.cons.inj popped
      exact .inl ⟨above, lowest, rest.symm, back⟩
  | within changed =>
    rw [items] at changed
    cases above with
    | nil => exact .inl ⟨[], x.step.deed.onFrame lowest, changed, by simpa using back⟩
    | cons top above => exact .inl ⟨x.step.deed.onFrame top :: above, lowest, changed, back⟩
  | gone ends =>
    rw [goesOn] at ends
    cases ends

theorem Over.length_lt {Q : Option Nat → Prop} {base items : List Frame} (h : Over Q base items) :
    base.length < items.length := by
  obtain ⟨above, frame, rfl, -⟩ := h
  simp only [List.length_append, List.length_cons]
  omega

theorem Over.take_toList {Q : Option Nat → Prop} {base : List Frame} {frames : Stack Frame}
    (h : Over Q base frames.items) : frames.toList.take base.length = base.reverse := by
  obtain ⟨above, frame, items, -⟩ := h
  rw [Stack.toList, items, List.reverse_append, List.reverse_cons, List.append_assoc,
    List.take_append_of_le_length (by simp), ← List.length_reverse, List.take_length]

theorem exists_over {items : List Frame} {n : Nat} (h : n < items.length) :
    ∃ base, base.length = n ∧ Over (fun _ => True) base items := by
  have place : items.length - n - 1 < items.length := by omega
  refine ⟨items.drop (items.length - n - 1 + 1), ?_, items.take (items.length - n - 1),
    items[items.length - n - 1], ?_, trivial⟩
  · rw [List.length_drop]
    omega
  · rw [List.getElem_cons_drop, List.take_append_drop]

theorem map_frames_left (goesOn : x.ends = false) :
    x.left.map (·.frames) = some x.after.frames := by
  simp [left, goesOn]

theorem items_after_of_ends (ends : x.ends = true) : x.after.frames.items = [] := by
  unfold Execution.ends at ends
  split at ends
  · next stop => simp [after, stop, Machine.settle, Thread.finish]
  · next stop => simp [after, stop, Machine.settle, Thread.finish]
  · cases ends

end Execution

/-- A stretch in the life of a thread: the instructions that it executes, while anything may happen
around it in between. At both ends there is the thread as it stands, if it is there. -/
inductive Life {σ : Type} [Host σ] (module : Module) (config : Config) :
    Option Thread → List (Execution σ) → Option Thread → Prop
  | rest (t : Option Thread) : Life module config t [] t
  | lost {t : Thread} {xs : List (Execution σ)} {t' : Option Thread} :
    Life module config none xs t' → Life module config (some t) xs t'
  | turn {t : Thread} {xs : List (Execution σ)} {t' : Option Thread} (state : RunState) :
    Life module config (some { t with state }) xs t' → Life module config (some t) xs t'
  | step {x : Execution σ} {xs : List (Execution σ)} {t' : Option Thread} {now : Tick} :
    x.machine.environment.module = module → x.Genuine config now →
      Life module config x.left xs t' → Life module config (some x.machine.thread) (x :: xs) t'

namespace Life

open Execution

variable {σ : Type} [Host σ] {module : Module} {config : Config} {t t' t'' : Option Thread}
  {x y : Execution σ} {xs ys during later : List (Execution σ)} {frames : Stack Frame}

theorem append (h : Life module config t xs t') (h' : Life module config t' ys t'') :
    Life module config t (xs ++ ys) t'' := by
  induction h with
  | rest t => exact h'
  | lost _ ih => exact .lost (ih h')
  | turn state _ ih => exact .turn state (ih h')
  | step module genuine _ ih => exact .step module genuine (ih h')

theorem of_keeps (h : ∀ thread, t' = some thread → t = some thread) :
    Life module config t ([] : List (Execution σ)) t' := by
  cases t' with
  | some thread =>
    rw [h thread rfl]
    exact .rest _
  | none =>
    cases t with
    | some thread => exact .lost (.rest _)
    | none => exact .rest _

theorem eq_none (h : Life module config none xs t') : t' = none := by
  cases h with
  | rest => rfl

theorem uncons (h : Life module config t (x :: xs) t') :
    (∃ now, x.Genuine config now) ∧ t.map (·.frames) = some x.machine.thread.frames ∧
      Life module config x.left xs t' := by
  generalize split : x :: xs = all at h
  induction h with
  | rest t => cases split
  | lost _ ih =>
    obtain ⟨-, absent, -⟩ := ih split
    cases absent
  | turn state _ ih => exact ih split
  | step _ genuine life =>
    cases split
    exact ⟨⟨_, genuine⟩, rfl, life⟩

theorem of_append (h : Life module config t (xs ++ ys) t') : ∃ t, Life module config t ys t' := by
  induction xs generalizing t with
  | nil => exact ⟨t, h⟩
  | cons _ xs ih => exact ih h.uncons.2.2

theorem goesOn (h : Life module config x.left ys t') (more : ys ≠ []) : x.ends = false := by
  obtain ⟨y, ys, rfl⟩ := List.exists_cons_of_ne_nil more
  obtain ⟨-, there, -⟩ := h.uncons
  unfold left at there
  split at there
  · cases there
  · next goesOn => simpa using goesOn

theorem over_of_depth {Q : Option Nat → Prop} {base : List Frame}
    (h : Life module config t (xs ++ ys) t') (there : t.map (·.frames) = some frames)
    (stands : Over Q base frames.items) (deep : ∀ x ∈ xs, base.length < x.after.frames.depth) :
    ∀ x ∈ xs, Over Q base x.after.frames.items := by
  induction xs generalizing t frames with
  | nil =>
    intro x member
    cases member
  | cons x xs ih =>
    obtain ⟨⟨now, genuine⟩, found, life⟩ := h.uncons
    cases there.symm.trans found
    have depth := deep x List.mem_cons_self
    rw [Stack.depth_eq] at depth
    have goesOn : x.ends = false := by
      rw [Bool.eq_false_iff]
      intro ends
      rw [items_after_of_ends ends] at depth
      cases depth
    have here : Over Q base x.after.frames.items := by
      obtain here | ⟨-, back, -⟩ := genuine.change.onBase goesOn stands
      · exact here
      · rw [back] at depth
        exact absurd depth (Nat.lt_irrefl _)
    intro y member
    obtain rfl | later := List.mem_cons.mp member
    · exact here
    · exact ih life (map_frames_left goesOn) here (fun z hz => deep z (List.mem_cons_of_mem _ hz)) y
        later

theorem back_of_depth {Q : Option Nat → Prop} {base : List Frame}
    (h : Life module config t (during ++ y :: later) t') (there : t.map (·.frames) = some frames)
    (stands : Over Q base frames.items) (nonempty : base ≠ [])
    (deep : ∀ z ∈ during, z.after.frames.depth ≠ base.length)
    (back : y.after.frames.depth = base.length) :
    y.instr = .returnFromScript ∧ y.after.frames.items = base ∧ Q (some y.after.ip) ∧
      y.after.stack = y.machine.thread.stack := by
  induction during generalizing t frames with
  | nil =>
    obtain ⟨⟨now, genuine⟩, found, -⟩ := h.uncons
    cases there.symm.trans found
    rw [Stack.depth_eq] at back
    have goesOn : y.ends = false := by
      rw [Bool.eq_false_iff]
      intro ends
      rw [items_after_of_ends ends] at back
      exact nonempty (List.length_eq_zero_iff.mp back.symm)
    obtain here | returned := genuine.change.onBase goesOn stands
    · exact absurd back.symm (Nat.ne_of_lt here.length_lt)
    · exact returned
  | cons z during ih =>
    obtain ⟨⟨now, genuine⟩, found, life⟩ := h.uncons
    cases there.symm.trans found
    have goesOn := life.goesOn (by simp)
    refine ih life (map_frames_left goesOn) ?_ fun z hz => deep z (List.mem_cons_of_mem _ hz)
    obtain here | ⟨-, back, -⟩ := genuine.change.onBase goesOn stands
    · exact here
    · refine absurd ?_ (deep z List.mem_cons_self)
      rw [Stack.depth_eq, back]

end Life

structure CallDiscipline {σ : Type} [Host σ] (xs : List (Execution σ)) : Prop where
  /-- While a thread does not come down below `d` frames, the lowest `d - 1` stay as they are. -/
  lowest : ∀ {before during later : List (Execution σ)} {x : Execution σ} {d : Nat},
    xs = before ++ x :: (during ++ later) → 1 ≤ d → d ≤ x.machine.thread.frames.depth →
      (∀ y ∈ x :: during, d ≤ y.after.frames.depth) → ∀ y ∈ x :: during,
        y.after.frames.toList.take (d - 1) = x.machine.thread.frames.toList.take (d - 1)
  /-- What first brings a thread back to the frames that it had at a call is a return. It goes to
  behind the call and finds all frames as the call has left them. -/
  returns : ∀ {before during later : List (Execution σ)} {x y : Execution σ} {script : ScriptId}
    {argc : UInt8}, xs = before ++ x :: (during ++ y :: later) →
      x.instr = .callScript script argc → 1 ≤ x.machine.thread.frames.depth →
      (∀ z ∈ during, z.after.frames.depth ≠ x.machine.thread.frames.depth) →
      y.after.frames.depth = x.machine.thread.frames.depth →
        y.instr = .returnFromScript ∧ y.after.ip = x.machine.thread.ip + 1 ∧
          y.after.frames = x.machine.thread.frames ∧ y.after.stack = y.machine.thread.stack

namespace Life

open Execution

variable {σ : Type} [Host σ] {module : Module} {config : Config} {t t' : Option Thread}
  {xs : List (Execution σ)}

theorem callDiscipline (h : Life module config t xs t') : CallDiscipline xs where
  lowest := by
    rintro before during later x d rfl one depth deep
    obtain ⟨t, life⟩ := h.of_append
    obtain ⟨-, there, -⟩ := life.uncons
    rw [Stack.depth_eq] at depth
    obtain ⟨base, length, stands⟩ :=
      exists_over (Nat.lt_of_lt_of_le (Nat.sub_one_lt_of_lt one) depth)
    intro y member
    have deeper : ∀ z ∈ x :: during, base.length < z.after.frames.depth := by
      intro z hz
      have := deep z hz
      omega
    have still : Over (fun _ => True) base y.after.frames.items :=
      life.over_of_depth there stands deeper y member
    rw [← length, stands.take_toList, still.take_toList]
  returns := by
    rintro before during later x y script argc rfl call one deep back
    obtain ⟨t, life⟩ := h.of_append
    obtain ⟨⟨now, genuine⟩, -, life⟩ := life.uncons
    obtain ⟨frame, returnIp, pushed⟩ := genuine.exists_of_call call
    rw [Stack.depth_eq x.machine.thread.frames] at one deep back
    have stands : Over (· = some (x.machine.thread.ip + 1)) x.machine.thread.frames.items
        x.after.frames.items :=
      ⟨[], frame, pushed, returnIp⟩
    obtain ⟨returned, frames, ip, stack⟩ :=
      life.back_of_depth (map_frames_left (life.goesOn (by simp))) stands
        (List.ne_nil_of_length_pos one) deep back
    exact ⟨returned, Option.some.inj ip, Stack.ext frames, stack⟩

end Life

namespace Machine

variable {σ : Type} [Host σ]

theorem life_trace (config : Config) (now : Tick) (budget : Nat) (m : Machine σ) :
    Life m.environment.module config (some m.thread) (m.trace config now budget)
      (if (m.run config now budget).1.isLive then some (m.run config now budget).2.thread
        else none) := by
  induction budget generalizing m with
  | zero => exact .rest _
  | succ budget ih =>
    cases worked : m.step config now with
    | error kind =>
      simpa [run, trace, worked, Status.isLive] using Life.lost (.rest none)
    | ok s =>
      obtain ⟨i, fetched, -⟩ := step_shape worked
      have genuine : Execution.Genuine config now ⟨m, i, s⟩ := ⟨fetched, worked⟩
      simp only [run, trace, worked, fetched]
      refine .step rfl genuine ?_
      cases stop : s.stop with
      | none =>
        have life := ih (perform s.thread m.environment m.host s.deed)
        rw [environment_perform, Environment.module_carryOut] at life
        simpa [Execution.left, Execution.ends, Execution.after, stop] using life
      | some halt =>
        cases halt with
        | blocked reason =>
          simp only [Execution.left, Execution.ends, Execution.after, stop]
          exact .rest _
        | finished =>
          simp only [Execution.left, Execution.ends, stop]
          exact .rest _
        | killed signal =>
          simp only [Execution.left, Execution.ends, stop]
          exact .rest _

end Machine

end UnitScript
