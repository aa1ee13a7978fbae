import UnitScript.Frame
import UnitScript.Proofs.InPlace

namespace UnitScript

namespace Frame

theorem toList_fill {slots : Array Int32} {start : Nat} {values : List Int32}
    (room : start + values.length ≤ slots.size) :
    (fill slots start values).toList =
      slots.toList.take start ++ values ++ slots.toList.drop (start + values.length) := by
  induction values generalizing slots start with
  | nil => simp [fill]
  | cons value rest ih =>
    rw [List.length_cons] at room
    have inside : start < slots.toList.length := by
      rw [Array.length_toList]
      omega
    have before : (slots.toList.set start value).take (start + 1) =
        slots.toList.take start ++ [value] := by
      rw [List.set_eq_take_append_cons_drop, if_pos inside, List.append_cons]
      exact List.take_left' (by simp [Nat.le_of_lt (by simpa using inside)])
    rw [fill, ih (by rw [Array.size_setIfInBounds]; omega), Array.toList_setIfInBounds, before,
      List.drop_set_of_lt (by omega), List.length_cons]
    simp [Nat.add_assoc, Nat.add_comm 1]

theorem toList_slots_enter {args : List Int32} {width : Nat} (fits : args.length ≤ width)
    (script : ScriptId) (returnIp : Option Nat) (params : Nat) :
    (enter script returnIp width params args).slots.toList =
      args ++ List.replicate (width - args.length) 0 := by
  rw [enter, toList_fill (by simpa using fits)]
  simp

inductive Call
  | create
  | get (slot : Nat)
  | set (slot : Nat) (value : Int32)
  deriving DecidableEq

inductive Answer
  | created (slot : Nat)
  | value (value : Int32)
  | written
  deriving DecidableEq

/-- Carry out a call. One that faults leaves the frame as it is. -/
def apply (f : Frame) : Call → Except FaultKind Answer × Frame
  | .create =>
    match f.createLocal with
    | .ok (slot, f) => (.ok (.created slot), f)
    | .error kind => (.error kind, f)
  | .get slot => ((f.getLocal slot).map .value, f)
  | .set slot value =>
    match f.setLocal slot value with
    | .ok f => (.ok .written, f)
    | .error kind => (.error kind, f)

def after (f : Frame) (calls : List Call) : Frame :=
  calls.foldl (fun f call => (f.apply call).2) f

def answers : Frame → List Call → List (Except FaultKind Answer)
  | _, [] => []
  | f, call :: rest => (f.apply call).1 :: answers (f.apply call).2 rest

/-- A call part by part: the slot is written before the claim is counted. -/
def inPlace : Call → InPlace FaultKind Frame Answer
  | .create => do
    let f ← get
    if f.claimed < f.width then
      modify fun f => { f with slots := f.slots.setIfInBounds f.claimed 0 }
      modify fun f => { f with claimed := f.claimed + 1 }
      return .created f.claimed
    else throw (.outOfRange f.claimed f.width)
  | .get slot => do
    let f ← get
    if slot < f.claimed then return .value (f.slots.getD slot 0)
    else throw (.outOfRange slot f.claimed)
  | .set slot value => do
    let f ← get
    if slot < f.claimed then
      modify fun f => { f with slots := f.slots.setIfInBounds slot value }
      return .written
    else throw (.outOfRange slot f.claimed)

theorem apply_create (f : Frame) :
    f.apply .create =
      if f.claimed < f.width then (.ok (.created f.claimed), f.claim)
      else (.error (.outOfRange f.claimed f.width), f) := by
  simp only [apply, createLocal, freeSlot]
  by_cases room : f.claimed < f.width
  · rw [if_pos room, if_pos room]
    rfl
  · rw [if_neg room, if_neg room]
    rfl

theorem apply_set (f : Frame) (slot : Nat) (value : Int32) :
    f.apply (.set slot value) =
      if slot < f.claimed then (.ok .written, f.put slot value)
      else (.error (.outOfRange slot f.claimed), f) := by
  simp only [apply, setLocal, getLocal]
  by_cases claimed : slot < f.claimed
  · rw [if_pos claimed, if_pos claimed]
    rfl
  · rw [if_neg claimed, if_neg claimed]
    rfl

theorem on_inPlace (f : Frame) (call : Call) : (inPlace call).on f = f.apply call := by
  cases call with
  | create =>
    rw [apply_create, inPlace, InPlace.on_get_bind]
    split <;> rfl
  | get slot =>
    rw [apply, getLocal, inPlace, InPlace.on_get_bind]
    split <;> rfl
  | set slot value =>
    rw [apply_set, inPlace, InPlace.on_get_bind]
    split <;> rfl

end Frame

/-- A list of values that grows, but not beyond a width. -/
structure Locals where
  values : List Int32
  width : Nat
  fits : values.length ≤ width

namespace Locals

open UnitScript.Frame (Call Answer)

def initial (params : Nat) (args : List Int32) {width : Nat} (fits : args.length ≤ width) :
    Locals where
  values := args ++ List.replicate (min width (max params args.length) - args.length) 0
  width
  fits := by
    rw [List.length_append, List.length_replicate]
    omega

def apply (l : Locals) : Call → Except FaultKind Answer × Locals
  | .create =>
    if room : l.values.length < l.width then
      (.ok (.created l.values.length), ⟨l.values ++ [0], l.width, by
        rw [List.length_append]
        exact room⟩)
    else (.error (.outOfRange l.values.length l.width), l)
  | .get slot =>
    match l.values[slot]? with
    | some value => (.ok (.value value), l)
    | none => (.error (.outOfRange slot l.values.length), l)
  | .set slot value =>
    if slot < l.values.length then
      (.ok .written, ⟨l.values.set slot value, l.width, by simpa using l.fits⟩)
    else (.error (.outOfRange slot l.values.length), l)

def after (l : Locals) (calls : List Call) : Locals :=
  calls.foldl (fun l call => (l.apply call).2) l

def answers : Locals → List Call → List (Except FaultKind Answer)
  | _, [] => []
  | l, call :: rest => (l.apply call).1 :: answers (l.apply call).2 rest

theorem length_values_initial (params : Nat) {args : List Int32} {width : Nat}
    (fits : args.length ≤ width) :
    (initial params args fits).values.length = min width (max params args.length) := by
  simp only [initial, List.length_append, List.length_replicate]
  omega

@[simp] theorem width_apply (l : Locals) (call : Call) : (l.apply call).2.width = l.width := by
  cases call with
  | create =>
    simp only [apply]
    split <;> rfl
  | get slot =>
    simp only [apply]
    split <;> rfl
  | set slot value =>
    simp only [apply]
    split <;> rfl

@[simp] theorem width_after (l : Locals) (calls : List Call) :
    (l.after calls).width = l.width := by
  induction calls generalizing l with
  | nil => rfl
  | cons call rest ih => exact (ih (l.apply call).2).trans (width_apply l call)

end Locals

namespace Frame

variable {l : Locals} {f : Frame}

/-- A frame that shows a list as its locals. What is in the slots behind them is left open. -/
structure Shows (f : Frame) (l : Locals) : Prop where
  width : f.width = l.width
  claimed : f.claimed = l.values.length
  locals : f.locals = l.values

theorem shows_enter {params : Nat} {args : List Int32} {width : Nat} (fits : args.length ≤ width)
    (script : ScriptId) (returnIp : Option Nat) :
    (enter script returnIp width params args).Shows (.initial params args fits) where
  width := width_enter ..
  claimed := (Locals.length_values_initial params fits).symm
  locals := by
    rw [Frame.locals, toList_slots_enter fits, List.take_append, List.take_replicate]
    simp only [enter, Locals.initial]
    rw [List.take_of_length_le (by omega)]
    congr 2
    omega

theorem Shows.slot (h : f.Shows l) {slot : Nat} (inside : slot < l.values.length) :
    f.slots[slot]? = l.values[slot]? := by
  rw [← h.locals, Frame.locals, List.getElem?_take_of_lt (h.claimed ▸ inside),
    Array.getElem?_toList]

theorem Shows.getLocal (h : f.Shows l) (slot : Nat) :
    f.getLocal slot =
      match l.values[slot]? with
      | some value => .ok value
      | none => .error (.outOfRange slot l.values.length) := by
  rw [Frame.getLocal, h.claimed]
  split
  · next inside =>
    rw [Array.getD_eq_getD_getElem?, h.slot inside, List.getElem?_eq_getElem inside]
    rfl
  · next outside => rw [List.getElem?_eq_none (Nat.le_of_not_lt outside)]

theorem Shows.put (h : f.Shows l) (slot : Nat) (value : Int32)
    {fits : (l.values.set slot value).length ≤ l.width} :
    (f.put slot value).Shows ⟨l.values.set slot value, l.width, fits⟩ where
  width := (width_put ..).trans h.width
  claimed := h.claimed.trans List.length_set.symm
  locals := by
    rw [Frame.locals, Frame.put, Array.toList_setIfInBounds, List.take_set]
    exact congrArg (List.set · slot value) h.locals

theorem Shows.claim (h : f.Shows l) (room : l.values.length < l.width)
    {fits : (l.values ++ [0]).length ≤ l.width} :
    f.claim.Shows ⟨l.values ++ [0], l.width, fits⟩ where
  width := (width_claim f).trans h.width
  claimed := by simp [Frame.claim, h.claimed]
  locals := by
    have inside : f.claimed < f.slots.toList.length := by
      rw [h.claimed, Array.length_toList]
      exact Nat.lt_of_lt_of_eq room h.width.symm
    -- The slot is set to zero first, whatever was in it.
    simp only [Frame.locals, Frame.claim, Array.toList_setIfInBounds]
    rw [List.take_succ_eq_append_getElem (by simpa using inside), List.getElem_set_self,
      List.take_set_of_le (Nat.le_refl _)]
    exact congrArg (· ++ [0]) h.locals

theorem Shows.apply (h : f.Shows l) (call : Call) :
    (f.apply call).1 = (l.apply call).1 ∧ (f.apply call).2.Shows (l.apply call).2 := by
  cases call with
  | create =>
    rw [apply_create, h.claimed, h.width, Locals.apply]
    split
    · next room => exact ⟨rfl, h.claim room⟩
    · exact ⟨rfl, h⟩
  | get slot =>
    simp only [Frame.apply, Locals.apply, h.getLocal]
    cases l.values[slot]? with
    | some value => exact ⟨rfl, h⟩
    | none => exact ⟨rfl, h⟩
  | set slot value =>
    rw [apply_set, h.claimed, Locals.apply]
    split
    · exact ⟨rfl, h.put slot value⟩
    · exact ⟨rfl, h⟩

theorem Shows.after (h : f.Shows l) (calls : List Call) :
    (f.after calls).Shows (l.after calls) := by
  induction calls generalizing f l with
  | nil => exact h
  | cons call rest ih => exact ih (h.apply call).2

theorem Shows.answers (h : f.Shows l) (calls : List Call) : f.answers calls = l.answers calls := by
  induction calls generalizing f l with
  | nil => rfl
  | cons call rest ih =>
    obtain ⟨here, later⟩ := h.apply call
    rw [Frame.answers, Locals.answers, here, ih later]

def Blank (f : Frame) : Prop :=
  ∀ slot, f.claimed ≤ slot → slot < f.width → f.slots[slot]? = some 0

theorem blank_enter {params : Nat} {args : List Int32} {width : Nat} (fits : args.length ≤ width)
    (script : ScriptId) (returnIp : Option Nat) :
    (enter script returnIp width params args).Blank := by
  intro slot free inside
  rw [width_enter] at inside
  simp only [enter] at free
  rw [← Array.getElem?_toList, toList_slots_enter fits, List.getElem?_append_right (by omega),
    List.getElem?_replicate_of_lt (by omega)]

theorem Blank.set (h : f.Blank) {slot : Nat} (value : Int32) {claimed : Nat}
    (below : slot < claimed) (grown : f.claimed ≤ claimed) :
    { f with slots := f.slots.setIfInBounds slot value, claimed }.Blank := by
  intro other free inside
  dsimp only at free
  simp only [width, Array.size_setIfInBounds] at inside
  rw [Array.getElem?_setIfInBounds_ne (by omega)]
  exact h other (Nat.le_trans grown free) inside

theorem Blank.apply (h : f.Blank) (call : Call) : (f.apply call).2.Blank := by
  cases call with
  | create =>
    rw [apply_create]
    split
    · exact h.set 0 (Nat.lt_succ_self _) (Nat.le_succ _)
    · exact h
  | get slot => exact h
  | set slot value =>
    rw [apply_set]
    split
    · next claimed => exact h.set value claimed (Nat.le_refl _)
    · exact h

theorem Blank.after (h : f.Blank) (calls : List Call) : (f.after calls).Blank := by
  induction calls generalizing f with
  | nil => exact h
  | cons call rest ih => exact ih (h.apply call)

theorem apply_of_error {call : Call} {kind : FaultKind} (failed : (f.apply call).1 = .error kind) :
    (f.apply call).2 = f := by
  cases call with
  | create =>
    rw [apply_create] at failed ⊢
    split
    · next room =>
      rw [if_pos room] at failed
      cases failed
    · rfl
  | get slot => rfl
  | set slot value =>
    rw [apply_set] at failed ⊢
    split
    · next claimed =>
      rw [if_pos claimed] at failed
      cases failed
    · rfl

/-- Whatever is asked of a frame, it answers as a list of its locals that starts with the arguments
and grows within the width of the frame. A call that faults changes nothing, the slots behind the
list are zero, and nothing that they could hold would ever be told. -/
theorem refines_locals (script : ScriptId) (returnIp : Option Nat) (params : Nat)
    {args : List Int32} {width : Nat} (fits : args.length ≤ width) (calls : List Call) :
    let f := enter script returnIp width params args
    let l := Locals.initial params args fits
    f.answers calls = l.answers calls ∧
    (f.after calls).locals = (l.after calls).values ∧
    (f.after calls).claimed = (l.after calls).values.length ∧
    (f.after calls).width = width ∧
    (∀ call, (inPlace call).on (f.after calls) = (f.after calls).apply call) ∧
    (∀ call kind g, (inPlace call).on (f.after calls) = (.error kind, g) → g = f.after calls) ∧
    (∀ slot, (l.after calls).values.length ≤ slot → slot < width →
      (f.after calls).slots[slot]? = some 0) ∧
    (∀ g : Frame, g.width = width → g.claimed = (f.after calls).claimed →
      g.locals = (f.after calls).locals →
      ∀ more, g.answers more = (f.after calls).answers more) := by
  intro f l
  have start : f.Shows l := shows_enter fits script returnIp
  have shows := start.after calls
  have kept : (f.after calls).width = width := shows.width.trans (l.width_after calls)
  refine ⟨start.answers calls, shows.locals, shows.claimed, kept, on_inPlace _, ?_, ?_, ?_⟩
  · intro call kind g failed
    rw [on_inPlace] at failed
    rw [← apply_of_error (congrArg Prod.fst failed), failed]
  · intro slot free inside
    have blank : (f.after calls).Blank := (blank_enter fits script returnIp).after calls
    exact blank slot (Nat.le_trans (Nat.le_of_eq shows.claimed) free)
      (Nat.lt_of_lt_of_eq inside kept.symm)
  · intro g there claimed locals more
    have same : g.Shows (l.after calls) := by
      refine ⟨?_, claimed.trans shows.claimed, locals.trans shows.locals⟩
      rw [there, ← kept, shows.width]
    rw [same.answers, shows.answers]

theorem refines_locals_missing_argument :
    (enter ⟨0⟩ none 3 2 [4]).answers [.get 1, .create, .set 2 42, .create, .get 3] =
        [.ok (.value 0), .ok (.created 2), .ok .written, .error (.outOfRange 3 3),
          .error (.outOfRange 3 3)] ∧
      ((enter ⟨0⟩ none 3 2 [4]).after
        [.get 1, .create, .set 2 42, .create, .get 3]).locals = [4, 0, 42] := by
  have fits : ([4] : List Int32).length ≤ 3 := by decide
  obtain ⟨answers, locals, -⟩ := refines_locals ⟨0⟩ none 2 fits
    [.get 1, .create, .set 2 42, .create, .get 3]
  rw [answers, locals]
  exact ⟨rfl, rfl⟩

end Frame

end UnitScript
