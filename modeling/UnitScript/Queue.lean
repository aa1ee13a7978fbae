universe u

namespace UnitScript

structure Queue (α : Type u) where
  front : List α
  back : List α
  size : Nat
  size_eq : size = front.length + back.length

namespace Queue

variable {α : Type u}

instance [DecidableEq α] : DecidableEq (Queue α) := fun p q =>
  decidable_of_iff (p.front = q.front ∧ p.back = q.back)
    ⟨fun h => by
      cases p with
      | mk front back size h₁ =>
        cases q with
        | mk front' back' size' h₂ =>
          obtain ⟨hf, hb⟩ := h
          cases hf
          cases hb
          cases h₁
          cases h₂
          rfl,
      fun h => h ▸ ⟨rfl, rfl⟩⟩

def empty : Queue α := ⟨[], [], 0, rfl⟩

instance : EmptyCollection (Queue α) := ⟨empty⟩

instance : Inhabited (Queue α) := ⟨empty⟩

def toList (q : Queue α) : List α := q.front ++ q.back.reverse

def push (q : Queue α) (a : α) : Queue α :=
  ⟨q.front, a :: q.back, q.size + 1, by simp [q.size_eq, Nat.add_assoc]⟩

def dropOldest (q : Queue α) : Queue α :=
  match q with
  | ⟨_ :: front, back, size, h⟩ =>
    ⟨front, back, size - 1, by simp only [List.length_cons] at h; omega⟩
  | ⟨[], back, size, h⟩ =>
    ⟨back.reverse.tail, [], size - 1, by simp only [List.length_nil] at h; simp [h]⟩

def drop : Nat → Queue α → Queue α
  | 0, q => q
  | n + 1, q => drop n q.dropOldest

/-- Add an entry, giving up as many of the oldest as it takes to stay within the limit. A queue
without room for anything stays as it is. -/
def pushWithin (limit : Nat) (q : Queue α) (a : α) : Queue α :=
  if limit = 0 then q else (q.drop (q.size + 1 - limit)).push a

@[simp] theorem toList_empty : (∅ : Queue α).toList = [] := rfl

@[simp] theorem toList_push (q : Queue α) (a : α) : (q.push a).toList = q.toList ++ [a] := by
  simp [toList, push]

@[simp] theorem toList_dropOldest (q : Queue α) : q.dropOldest.toList = q.toList.tail := by
  obtain ⟨front, back, size, h⟩ := q
  cases front with
  | nil => simp [dropOldest, toList]
  | cons a front => simp [dropOldest, toList]

@[simp] theorem toList_drop (n : Nat) (q : Queue α) : (q.drop n).toList = q.toList.drop n := by
  induction n generalizing q with
  | zero => rfl
  | succ n ih => simp [drop, ih]

@[simp] theorem length_toList (q : Queue α) : q.toList.length = q.size := by
  simp [toList, q.size_eq]

end Queue

end UnitScript
