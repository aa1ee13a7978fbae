import UnitScript.Thread

universe u

namespace UnitScript

/-- What is known of a computation that may fault: `fault` of the fault that it ends in, `value` of
the value that it gives. -/
def Outcome {α : Type u} (fault : FaultKind → Prop) (value : α → Prop) :
    Except FaultKind α → Prop
  | .error kind => fault kind
  | .ok a => value a

namespace Outcome

variable {α : Type u} {fault fault' : FaultKind → Prop} {value value' : α → Prop}

theorem mono {x : Except FaultKind α} (h : Outcome fault value x)
    (faults : ∀ kind, fault kind → fault' kind) (values : ∀ a, value a → value' a) :
    Outcome fault' value' x := by
  cases x with
  | error kind => exact faults kind h
  | ok a => exact values a h

theorem bind {β : Type u} {result : β → Prop} {x : Except FaultKind α}
    {next : α → Except FaultKind β} (h : Outcome fault value x)
    (faults : ∀ kind, fault kind → fault' kind)
    (rest : ∀ a, value a → Outcome fault' result (next a)) :
    Outcome fault' result (x >>= next) := by
  cases x with
  | error kind => exact faults kind h
  | ok a => exact rest a h

theorem of_ok {x : Except FaultKind α} {a : α} (h : Outcome fault value x) (ok : x = .ok a) :
    value a := by
  subst ok
  exact h

theorem of_error {x : Except FaultKind α} {kind : FaultKind} (h : Outcome fault value x)
    (error : x = .error kind) : fault kind := by
  subst error
  exact h

end Outcome

namespace Stack

variable {α : Type u}

theorem depth_eq_zero_of_pop? {s : Stack α} (h : s.pop? = none) : s.depth = 0 := by
  obtain ⟨items, depth, depth_eq⟩ := s
  cases items with
  | nil => exact depth_eq
  | cons a rest => cases h

theorem eq_push_of_pop? {s rest : Stack α} {a : α} (h : s.pop? = some (a, rest)) :
    s = rest.push a := by
  obtain ⟨items, depth, depth_eq⟩ := s
  cases items with
  | nil => cases h
  | cons b below =>
    cases h
    exact Stack.ext rfl

theorem depth_lt_of_popN? {s : Stack α} {n : Nat} (h : s.popN? n = none) : s.depth < n := by
  simpa [popN?] using h

theorem items_of_popN? {s rest : Stack α} {n : Nat} {values : List α}
    (h : s.popN? n = some (values, rest)) :
    s.items = values.reverse ++ rest.items ∧ values.length = n := by
  unfold popN? at h
  split at h
  · next enough =>
    cases h
    have length := s.depth_eq
    refine ⟨by simp, ?_⟩
    simp only [List.length_reverse, List.length_take]
    omega
  · cases h

theorem depth_of_items {s rest : Stack α} {values : List α}
    (h : s.items = values.reverse ++ rest.items) : s.depth = values.length + rest.depth := by
  rw [s.depth_eq, rest.depth_eq, h]
  simp

end Stack

namespace Thread

theorem pop_outcome (t : Thread) :
    Outcome (fun kind => kind = .stackUnderflow ∧ t.stack.depth < 1)
      (fun r => ∃ stack, t.stack = stack.push r.1 ∧ r.2 = { t with stack }) t.pop := by
  unfold pop
  split
  · next value stack h => exact ⟨stack, Stack.eq_push_of_pop? h, rfl⟩
  · next h => exact ⟨rfl, by simp [Stack.depth_eq_zero_of_pop? h]⟩

theorem popTwo_outcome (t : Thread) :
    Outcome (fun kind => kind = .stackUnderflow ∧ t.stack.depth < 2)
      (fun r => ∃ stack, t.stack = (stack.push r.2.1).push r.1 ∧ r.2.2 = { t with stack })
      t.popTwo := by
  refine t.pop_outcome.bind (fun kind h => ⟨h.1, by omega⟩) ?_
  rintro ⟨upper, t'⟩ ⟨below, hstack, rfl⟩
  refine (pop_outcome _).bind ?_ ?_
  · intro kind h
    have empty : below.depth < 1 := h.2
    refine ⟨h.1, ?_⟩
    rw [hstack, Stack.depth_push]
    omega
  · rintro ⟨lower, t'⟩ ⟨rest, hbelow, rfl⟩
    change below = rest.push lower at hbelow
    exact ⟨rest, by rw [hstack, hbelow], rfl⟩

theorem popN_outcome (t : Thread) (count : Nat) :
    Outcome (fun kind => kind = .stackUnderflow ∧ t.stack.depth < count)
      (fun r => ∃ stack, t.stack.items = r.1.reverse ++ stack.items ∧ r.1.length = count ∧
        r.2 = { t with stack }) (t.popN count) := by
  unfold popN
  split
  · next values stack h =>
    obtain ⟨items, length⟩ := Stack.items_of_popN? h
    exact ⟨stack, items, length, rfl⟩
  · next h => exact ⟨rfl, Stack.depth_lt_of_popN? h⟩

theorem push_outcome (t : Thread) (value : Int32) (limit : Nat) :
    Outcome (fun kind => kind = .stackOverflow limit ∧ limit ≤ t.stack.depth)
      (fun r => t.stack.depth < limit ∧ r = { t with stack := t.stack.push value })
      (t.push value limit) := by
  unfold push
  split
  · next room => exact ⟨room, rfl⟩
  · next full => exact ⟨rfl, Nat.le_of_not_lt full⟩

theorem pushFrame_outcome (t : Thread) (frame : Frame) (limit : Nat) :
    Outcome (fun kind => kind = .stackOverflow limit ∧ limit ≤ t.frames.depth)
      (fun r => t.frames.depth < limit ∧ r = { t with frames := t.frames.push frame })
      (t.pushFrame frame limit) := by
  unfold pushFrame
  split
  · next room => exact ⟨room, rfl⟩
  · next full => exact ⟨rfl, Nat.le_of_not_lt full⟩

theorem popFrame_outcome (t : Thread) :
    Outcome (fun _ => t.frames.depth = 0)
      (fun r => ∃ frames, t.frames = frames.push r.1 ∧ r.2 = { t with frames }) t.popFrame := by
  unfold popFrame
  split
  · next frame frames h => exact ⟨frames, Stack.eq_push_of_pop? h, rfl⟩
  · next h => exact Stack.depth_eq_zero_of_pop? h

theorem topFrame_outcome (t : Thread) :
    Outcome (fun _ => t.frames.items = [])
      (fun frame => ∃ rest, t.frames.items = frame :: rest) t.topFrame := by
  unfold topFrame
  split
  · next frame h => exact List.head?_eq_some_iff.mp h
  · next h => exact List.head?_eq_none_iff.mp h

end Thread

namespace Frame

theorem freeSlot_outcome (f : Frame) :
    Outcome (fun kind => kind = .outOfRange f.claimed f.width)
      (fun slot => slot = f.claimed ∧ f.claimed < f.width) f.freeSlot := by
  unfold freeSlot
  split
  · next room => exact ⟨rfl, room⟩
  · exact rfl

theorem getLocal_outcome (f : Frame) (slot : Nat) :
    Outcome (fun kind => kind = .outOfRange slot f.claimed) (fun _ => slot < f.claimed)
      (f.getLocal slot) := by
  unfold getLocal
  split
  · next claimed => exact claimed
  · exact rfl

end Frame

end UnitScript
