universe u

namespace UnitScript

structure Stack (α : Type u) where
  items : List α
  depth : Nat
  depth_eq : depth = items.length

namespace Stack

variable {α : Type u}

@[ext] theorem ext {s t : Stack α} (h : s.items = t.items) : s = t := by
  cases s with
  | mk items depth depth_eq =>
    cases t with
    | mk items' depth' depth_eq' =>
      cases h
      cases depth_eq
      cases depth_eq'
      rfl

instance [DecidableEq α] : DecidableEq (Stack α) := fun s t =>
  decidable_of_iff (s.items = t.items) ⟨ext, congrArg items⟩

def empty : Stack α := ⟨[], 0, List.length_nil.symm⟩

instance : EmptyCollection (Stack α) := ⟨empty⟩

instance : Inhabited (Stack α) := ⟨empty⟩

@[inline] def push (s : Stack α) (a : α) : Stack α :=
  ⟨a :: s.items, s.depth + 1, congrArg (· + 1) s.depth_eq⟩

@[inline] def pop? (s : Stack α) : Option (α × Stack α) :=
  match s with
  | ⟨[], _, _⟩ => none
  | ⟨a :: rest, depth, h⟩ => some (a, ⟨rest, depth - 1, by simp [h]⟩)

@[inline] def top? (s : Stack α) : Option α := s.items.head?

/-- The `n` topmost items, the deepest first, and what is below them. -/
def popN? (s : Stack α) (n : Nat) : Option (List α × Stack α) :=
  if n ≤ s.depth then
    some ((s.items.take n).reverse, ⟨s.items.drop n, s.depth - n, by simp [s.depth_eq]⟩)
  else none

def mapTop (f : α → α) (s : Stack α) : Stack α :=
  ⟨s.items.modifyHead f, s.depth, by simp [s.depth_eq]⟩

def toList (s : Stack α) : List α := s.items.reverse

@[simp] theorem items_empty : (∅ : Stack α).items = [] := rfl

@[simp] theorem items_push (s : Stack α) (a : α) : (s.push a).items = a :: s.items := rfl

@[simp] theorem depth_push (s : Stack α) (a : α) : (s.push a).depth = s.depth + 1 := rfl

@[simp] theorem pop?_push (s : Stack α) (a : α) : (s.push a).pop? = some (a, s) := rfl

@[simp] theorem items_mapTop (f : α → α) (s : Stack α) :
    (s.mapTop f).items = s.items.modifyHead f := rfl

@[simp] theorem mapTop_push (f : α → α) (s : Stack α) (a : α) :
    (s.push a).mapTop f = s.push (f a) := rfl

@[simp] theorem toList_push (s : Stack α) (a : α) : (s.push a).toList = s.toList ++ [a] := by
  simp [toList]

end Stack

end UnitScript
