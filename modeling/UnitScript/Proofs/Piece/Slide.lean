import Mathlib.Algebra.Order.Floor.Div
import UnitScript.Proofs.Piece.Channel

namespace UnitScript

def between (x y : Int) (distance : Nat) : Int :=
  if (y - x).natAbs ≤ distance then y else x + (y - x).sign * distance

theorem natAbs_sub_between (x y : Int) (distance : Nat) :
    (y - between x y distance).natAbs = (y - x).natAbs - distance := by
  unfold between
  split
  · omega
  · next short =>
    obtain ahead | rfl | behind := lt_trichotomy x y
    · rw [Int.sign_eq_one_of_pos (by omega)]
      omega
    · simp at short
    · rw [Int.sign_eq_neg_one_of_neg (by omega)]
      omega

@[simp] theorem between_zero (x y : Int) : between x y 0 = x := by
  unfold between
  split
  · omega
  · simp

theorem between_eq_target_iff {x y : Int} {distance : Nat} :
    between x y distance = y ↔ (y - x).natAbs ≤ distance := by
  have left := natAbs_sub_between x y distance
  omega

theorem between_between (x y : Int) (a b : Nat) :
    between (between x y a) y b = between x y (a + b) := by
  by_cases arrived : (y - x).natAbs ≤ a
  · have there : between x y (a + b) = y :=
      between_eq_target_iff.mpr (Nat.le_add_right_of_le arrived)
    rw [between_eq_target_iff.mpr arrived, there, between_eq_target_iff]
    simp
  · have place : between x y a = x + (y - x).sign * a := if_neg arrived
    rw [place]
    unfold between
    obtain ahead | rfl | behind := lt_trichotomy x y
    · have sign : (y - x).sign = 1 := Int.sign_eq_one_of_pos (by omega)
      have rest : (y - (x + 1 * a)).sign = 1 := Int.sign_eq_one_of_pos (by omega)
      rw [sign, rest]
      split <;> split <;> omega
    · simp at arrived
    · have sign : (y - x).sign = -1 := Int.sign_eq_neg_one_of_neg (by omega)
      have rest : (y - (x + -1 * a)).sign = -1 := Int.sign_eq_neg_one_of_neg (by omega)
      rw [sign, rest]
      split <;> split <;> omega

namespace Slide

theorem toInt_approach (current target : Int32) (step : UInt32) :
    (approach current target step).toInt = between current.toInt target.toInt step.toNat := by
  have low := current.le_toInt
  have high := current.toInt_lt
  have low' := target.le_toInt
  have high' := target.toInt_lt
  unfold approach between
  dsimp only
  split
  · rfl
  · next short =>
    -- A step that stops short ends between two words, so that it is a word.
    split
    · next ahead =>
      rw [Int.sign_eq_one_of_pos ahead, Int32.toInt_ofInt_of_le] <;> omega
    · next behind =>
      rw [Int.sign_eq_neg_one_of_neg (by omega), Int32.toInt_ofInt_of_le] <;> omega

theorem toNat_magnitude (n : Int32) : (magnitude n).toNat = n.toInt.natAbs := by
  have low := n.le_toInt
  have high := n.toInt_lt
  rw [magnitude, UInt32.toNat_ofNat']
  omega

end Slide

namespace Move

/-- The ticks that a move takes from a position. Even one that is there already takes a tick. -/
def duration (m : Move) (position : Int32) : Nat :=
  max 1 ((m.target.toInt - position.toInt).natAbs ⌈/⌉ m.speed.toNat)

/-- A move that makes headway, by no more than the size of a word. -/
structure Steady (m : Move) : Prop where
  one_le : 1 ≤ m.speed.toNat
  le : m.speed.toNat ≤ 2 ^ 31

theorem Steady.lt_duration_iff {m : Move} (h : m.Steady) {position : Int32} {n : Nat} :
    n < m.duration position ↔
      n = 0 ∨ n * m.speed.toNat < (m.target.toInt - position.toInt).natAbs := by
  rw [duration, lt_max_iff, Nat.lt_one_iff, ← not_le, ceilDiv_le_iff_le_mul h.one_le, not_le,
    Nat.mul_comm]

end Move

namespace Slide

variable {s : Slide} {m : Move}

def Steady (s : Slide) : Prop := ∀ m, s.move = some m → m.Steady

theorem steady_moveTo (s : Slide) (target speed : Int32) : (s.moveTo target speed).Steady := by
  unfold moveTo
  split
  · nofun
  · next moving =>
    rintro _ ⟨⟩
    have size := toNat_magnitude speed
    have low := speed.le_toInt
    have high := speed.toInt_lt
    constructor
    · change 1 ≤ (magnitude speed).toNat
      rw [Nat.one_le_iff_ne_zero]
      exact fun zero => moving (UInt32.toNat_inj.mp zero)
    · change (magnitude speed).toNat ≤ 2 ^ 31
      omega

theorem Steady.advance (h : s.Steady) : s.advance.Steady := by
  unfold Slide.advance
  split
  · exact h
  · next m pending =>
    intro m' still
    dsimp only at still
    split at still
    · cases still
    · cases still
      exact h m pending

theorem Steady.respond (h : s.Steady) (axis : Axis) (request : PieceRequest) :
    (Channel.respond (.linear axis) request s).Steady := by
  cases request with
  | moveTo =>
    simp only [Channel.respond]
    split
    · exact steady_moveTo s _ _
    · exact h
  | moveNow =>
    simp only [Channel.respond]
    split
    · intro m pending
      cases pending
    · exact h
  | _ => exact h

theorem Steady.on (h : s.Steady) (place : Nat) (axis : Axis) (op : PieceSet.Operation) :
    Slide.Steady (op.on place (.linear axis) s) := by
  cases op with
  | perform piece request =>
    simp only [PieceSet.Operation.on]
    split
    · exact h.respond axis request
    · exact h
  | advance => exact h.advance

theorem toInt_position_advance (pending : s.move = some m) :
    s.advance.position.toInt =
      between s.position.toInt m.target.toInt m.speed.toNat := by
  simp only [Slide.advance, pending]
  exact toInt_approach ..

theorem move_advance (pending : s.move = some m) :
    s.advance.move =
      if (m.target.toInt - s.position.toInt).natAbs ≤ m.speed.toNat then none else some m := by
  simp only [Slide.advance, pending, ← Int32.toInt_inj, toInt_approach, between_eq_target_iff]

theorem advance_iterate (pending : s.move = some m) (steady : m.Steady) (n : Nat) :
    (Slide.advance^[n] s).position.toInt =
        between s.position.toInt m.target.toInt (n * m.speed.toNat) ∧
      (Slide.advance^[n] s).move = if n < m.duration s.position then some m else none := by
  induction n with
  | zero => simp [steady.lt_duration_iff, pending]
  | succ n ih =>
    obtain ⟨position, move⟩ := ih
    rw [Function.iterate_succ_apply', Nat.succ_mul]
    by_cases going : n < m.duration s.position
    · rw [if_pos going] at move
      rw [toInt_position_advance move, move_advance move, position, between_between,
        natAbs_sub_between, if_congr steady.lt_duration_iff rfl rfl, Nat.succ_mul]
      have arrives :
          (m.target.toInt - s.position.toInt).natAbs - n * m.speed.toNat ≤ m.speed.toNat ↔
            ¬(n + 1 = 0 ∨
              n * m.speed.toNat + m.speed.toNat < (m.target.toInt - s.position.toInt).natAbs) := by
        omega
      rw [if_congr arrives rfl rfl, ite_not]
      exact ⟨rfl, rfl⟩
    · rw [if_neg going] at move
      have done : ¬n + 1 < m.duration s.position := fun still => going (Nat.lt_of_succ_lt still)
      have rests : (Slide.advance^[n] s).advance = Slide.advance^[n] s := by
        simp [Slide.advance, move]
      rw [steady.lt_duration_iff, not_or, Nat.not_lt] at going
      rw [rests, if_neg done, position, between_eq_target_iff.mpr going.2,
        between_eq_target_iff.mpr (Nat.le_add_right_of_le going.2)]
      exact ⟨rfl, move⟩

end Slide

namespace PieceSet

variable {s : PieceSet} {piece : PieceId} {axis : Axis} {op : Operation}

def Steady (s : PieceSet) : Prop :=
  ∀ piece axis slide, s.slide? piece axis = some slide → slide.Steady

theorem steady_ofCount (count : Nat) : (ofCount count).Steady := by
  intro piece axis slide found
  simp only [slide?, piece?, ofCount, Array.getElem?_replicate, Option.map_eq_some_iff] at found
  obtain ⟨p, found, rfl⟩ := found
  split at found
  · cases found
    intro m pending
    cases axis <;> cases pending
  · cases found

theorem Steady.apply (h : s.Steady) (op : Operation) : (s.apply op).Steady := by
  intro piece axis slide found
  rw [slide?_apply, Option.map_eq_some_iff] at found
  obtain ⟨before, found, rfl⟩ := found
  exact (h piece axis before found).on piece.index axis op

theorem Steady.after (h : s.Steady) (ops : List Operation) : (s.after ops).Steady := by
  induction ops generalizing s with
  | nil => exact h
  | cons op rest ih => exact ih (h.apply op)

theorem slide?_after_of_still {ops : List Operation}
    (still : ∀ op ∈ ops, op.moves piece axis = false) :
    (s.after ops).slide? piece axis =
      (s.slide? piece axis).map Slide.advance^[advances ops] := by
  induction ops generalizing s with
  | nil => simp [after, advances]
  | cons op rest ih =>
    rw [List.forall_mem_cons] at still
    change ((s.apply op).after rest).slide? piece axis = _
    rw [ih still.2, slide?_apply, Option.map_map]
    by_cases ticks : op = .advance
    · subst ticks
      have passed : advances (.advance :: rest) = advances rest + 1 := List.count_cons_self
      rw [passed, Function.iterate_succ]
      rfl
    · have passed : advances (op :: rest) = advances rest := List.count_cons_of_ne ticks
      rw [passed, Operation.on_of_not_concerns (concerns_of_still still.1 ticks), Function.comp_id]

/-- However a move was started, it goes toward its target by its speed every tick, and it is under
way for as many ticks as that takes. -/
theorem moves_on_schedule (count : Nat) (ops : List Operation) {slide : Slide} {m : Move}
    (found : ((ofCount count).after ops).slide? piece axis = some slide)
    (pending : slide.move = some m) :
    (1 ≤ m.speed.toNat ∧ m.speed.toNat ≤ 2 ^ 31) ∧
      ∀ later, (∀ op ∈ later, op.moves piece axis = false) →
        ∃ slide', ((ofCount count).after (ops ++ later)).slide? piece axis = some slide' ∧
          slide'.position.toInt =
            between slide.position.toInt m.target.toInt (advances later * m.speed.toNat) ∧
          slide'.move = if advances later < m.duration slide.position then some m else none := by
  have steady := (steady_ofCount count).after ops piece axis slide found m pending
  refine ⟨⟨steady.one_le, steady.le⟩, ?_⟩
  intro later still
  refine ⟨Slide.advance^[advances later] slide, ?_, Slide.advance_iterate pending steady _⟩
  rw [after_append, slide?_after_of_still still, found, Option.map_some]

def crossing : List Operation :=
  [.perform ⟨0⟩ (.moveNow .z Int32.minValue),
    .perform ⟨0⟩ (.moveTo .z Int32.maxValue Int32.minValue)]

theorem crossing_on_schedule :
    ∃ slide m, ((ofCount 1).after crossing).slide? ⟨0⟩ .z = some slide ∧ slide.move = some m ∧
      m.speed.toNat = 2 ^ 31 ∧ m.duration slide.position = 2 ∧
      (∃ slide', ((ofCount 1).after (crossing ++ [.perform ⟨0⟩ (.moveTo .x 5 1),
          .advance])).slide? ⟨0⟩ .z = some slide' ∧
        slide'.position.toInt = 0 ∧ slide'.move = some m) ∧
      ∃ slide', ((ofCount 1).after (crossing ++ [.advance, .perform ⟨1⟩ (.moveNow .z 5),
          .advance])).slide? ⟨0⟩ .z = some slide' ∧
        slide'.position = Int32.maxValue ∧ slide'.move = none := by
  have found : ((ofCount 1).after crossing).slide? ⟨0⟩ .z =
      some ⟨Int32.minValue, some ⟨Int32.maxValue, 2147483648⟩⟩ := by
    decide +kernel
  obtain ⟨-, onTime⟩ := moves_on_schedule 1 crossing found rfl
  obtain ⟨half, foundHalf, position, move⟩ :=
    onTime [.perform ⟨0⟩ (.moveTo .x 5 1), .advance] (by decide)
  obtain ⟨whole, foundWhole, position', move'⟩ :=
    onTime [.advance, .perform ⟨1⟩ (.moveNow .z 5), .advance] (by decide)
  refine ⟨_, _, found, rfl, rfl, by decide +kernel, ⟨half, foundHalf, ?_, ?_⟩, whole, foundWhole,
    ?_, ?_⟩
  · rw [position]
    decide +kernel
  · rw [move]
    decide +kernel
  · rw [← Int32.toInt_inj, position']
    decide +kernel
  · rw [move']
    decide +kernel

end PieceSet

end UnitScript
