import Mathlib.Algebra.Order.Floor.Div
import Mathlib.Data.Stream.Defs
import Mathlib.Order.Interval.Set.UnorderedInterval
import Mathlib.Tactic.Ring
import UnitScript.Environment

universe u

namespace UnitScript

namespace Random

def quotient (word range : Nat) : Nat := word * range / 2 ^ 32

/-- What the second word adds where the first one leaves it open. -/
def carry (word second range : Nat) : Nat :=
  if 2 ^ 32 - range < word * range % 2 ^ 32 ∧
      2 ^ 32 ≤ word * range % 2 ^ 32 + quotient second range then 1
  else 0

def span (a b : Int32) : Nat := (b.toInt - a.toInt).natAbs + 1

def deal (words : Stream' UInt32) : UInt32 × Stream' UInt32 := (words.head, words.tail)

theorem toNat_widen_fst (x y : UInt32) : (widen x y).1.toNat = quotient x.toNat y.toNat := by
  have fits : x.toNat * y.toNat < 2 ^ 32 * 2 ^ 32 := Nat.mul_lt_mul'' x.toNat_lt y.toNat_lt
  have places : (32 : UInt64).toNat % 64 = 32 := rfl
  simp only [widen, quotient, UInt64.toNat_toUInt32, UInt64.toNat_shiftRight, UInt64.toNat_mul,
    UInt32.toNat_toUInt64, places, Nat.shiftRight_eq_div_pow]
  omega

theorem toNat_widen_snd (x y : UInt32) :
    (widen x y).2.toNat = x.toNat * y.toNat % 2 ^ 32 := by
  simp only [widen, UInt64.toNat_toUInt32, UInt64.toNat_mul, UInt32.toNat_toUInt64]
  omega

theorem quotient_add_carry {word second range : Nat} (isWord : second < 2 ^ 32)
    (few : range < 2 ^ 32) :
    quotient word range + carry word second range =
      (word * 2 ^ 32 + second) * range / 2 ^ 64 := by
  have least : second * range ≤ (2 ^ 32 - 1) * range := Nat.mul_le_mul_right range (by omega)
  have digits : (word * 2 ^ 32 + second) * range = word * range * 2 ^ 32 + second * range := by
    ring
  rw [digits]
  unfold carry quotient
  split <;> omega

theorem quotient_add_carry_lt {word second range : Nat} (isWord : word < 2 ^ 32)
    (isWord' : second < 2 ^ 32) (few : range < 2 ^ 32) (nonempty : 0 < range) :
    quotient word range + carry word second range < range := by
  rw [quotient_add_carry isWord' few, Nat.div_lt_iff_lt_mul (by decide), Nat.mul_comm range]
  exact Nat.mul_lt_mul_of_pos_right (by omega) nonempty

/-- Every number below a range is the part of it that some two words come to: the digits of the
least fraction that is not too small. -/
theorem exists_quotient_add_carry_eq {range n : Nat} (few : range < 2 ^ 32) (inside : n < range) :
    ∃ word second : UInt32,
      quotient word.toNat range + carry word.toNat second.toNat range = n := by
  have positive : 0 < range := Nat.zero_lt_of_lt inside
  obtain ⟨fraction, least⟩ : ∃ fraction, fraction = n * 2 ^ 64 ⌈/⌉ range := ⟨_, rfl⟩
  have enough : n * 2 ^ 64 ≤ range * fraction := by
    rw [least, ← smul_eq_mul range]
    exact le_smul_ceilDiv positive
  have short : range * fraction < (n + 1) * 2 ^ 64 := by
    rw [least, Nat.ceilDiv_eq_add_pred_div]
    have := Nat.mul_div_le (n * 2 ^ 64 + range - 1) range
    omega
  have isFraction : fraction < 2 ^ 64 := by
    have := Nat.mul_le_mul_right (2 ^ 64) (Nat.succ_le_of_lt inside)
    exact Nat.lt_of_mul_lt_mul_left (short.trans_le this)
  refine ⟨.ofNat (fraction / 2 ^ 32), .ofNat (fraction % 2 ^ 32), ?_⟩
  have first : (UInt32.ofNat (fraction / 2 ^ 32)).toNat = fraction / 2 ^ 32 := by
    rw [UInt32.toNat_ofNat']
    omega
  have second : (UInt32.ofNat (fraction % 2 ^ 32)).toNat = fraction % 2 ^ 32 := by
    rw [UInt32.toNat_ofNat']
    omega
  rw [quotient_add_carry (UInt32.toNat_lt _) few, first, second, Nat.div_add_mod', Nat.mul_comm]
  exact Nat.div_eq_of_lt_le enough short

variable {σ : Type u} {next : σ → UInt32 × σ}

theorem toNat_below {range : UInt32} (nonempty : range ≠ 0) (s : σ) :
    (below next range s).1.toNat = quotient (next s).1.toNat range.toNat +
      carry (next s).1.toNat (next (next s).2).1.toNat range.toNat := by
  have positive : 0 < range.toNat := by
    rw [Nat.pos_iff_ne_zero]
    exact fun zero => nonempty (UInt32.toNat_inj.mp zero)
  have few := range.toNat_lt
  have inside := quotient_add_carry_lt (next s).1.toNat_lt (next (next s).2).1.toNat_lt few positive
  have rest : (-range).toNat = 2 ^ 32 - range.toNat := by
    rw [UInt32.toNat_neg]
    exact Nat.mod_eq_of_lt (Nat.sub_lt (by decide) positive)
  simp only [below, gt_iff_lt, UInt32.lt_iff_toNat_lt, toNat_widen_snd, toNat_widen_fst, rest]
  split
  · next opened =>
    split
    · next carried =>
      rw [carry, if_pos ⟨opened, carried⟩] at inside ⊢
      rw [UInt32.toNat_add, toNat_widen_fst]
      exact Nat.mod_eq_of_lt (inside.trans few)
    · next lost =>
      rw [carry, if_neg (fun both => lost both.2), toNat_widen_fst, Nat.add_zero]
  · next closed =>
    rw [carry, if_neg (fun both => closed both.1), toNat_widen_fst, Nat.add_zero]

theorem toInt_toInt32 (x : UInt32) : x.toInt32.toInt = (x.toNat : Int).bmod (2 ^ 32) :=
  BitVec.toInt_eq_toNat_bmod x.toBitVec

theorem toNat_range {a b : Int32} (ordered : a ≤ b) :
    (b - a + 1).toUInt32.toNat = span a b % 2 ^ 32 := by
  rw [Int32.le_iff_toInt_le] at ordered
  have isWord := (b - a + 1).toUInt32.toNat_lt
  have same : (b - a + 1).toInt = ((b - a + 1).toUInt32.toNat : Int).bmod (2 ^ 32) :=
    toInt_toInt32 (b - a + 1).toUInt32
  rw [Int32.toInt_add, Int32.toInt_sub, Int.bmod_add_bmod] at same
  have congruent := congrArg (· % ((2 ^ 32 : Nat) : Int)) same
  have one : (1 : Int32).toInt = 1 := rfl
  simp only [Int.bmod_emod, one] at congruent
  unfold span
  omega

theorem uniform_comm (a b : Int32) (s : σ) : uniform next a b s = uniform next b a s := by
  by_cases le : a ≤ b
  · by_cases ge : b ≤ a
    · rw [Int32.le_antisymm le ge]
    · simp only [uniform, if_pos le, if_neg ge]
  · have ge : b ≤ a := Int32.le_of_lt (Int32.not_le.mp le)
    simp only [uniform, if_neg le, if_pos ge]

theorem span_comm (a b : Int32) : span a b = span b a := by
  unfold span
  omega

theorem span_le (a b : Int32) : span a b ≤ 2 ^ 32 := by
  have low := a.le_toInt
  have high := a.toInt_lt
  have low' := b.le_toInt
  have high' := b.toInt_lt
  unfold span
  omega

theorem uniform_of_full {a b : Int32} (full : span a b = 2 ^ 32) (s : σ) :
    uniform next a b s = ((next s).1.toInt32, (next s).2) := by
  wlog ordered : a ≤ b generalizing a b
  · rw [uniform_comm]
    exact this (span_comm a b ▸ full) (Int32.le_of_lt (Int32.not_le.mp ordered))
  have wraps : (b - a + 1).toUInt32 = 0 := by
    rw [← UInt32.toNat_inj, toNat_range ordered, full]
    rfl
  simp only [uniform, if_pos ordered, if_pos wraps]

theorem toInt_uniform {a b : Int32} (few : span a b < 2 ^ 32) (s : σ) :
    (uniform next a b s).1.toInt = min a.toInt b.toInt +
      (quotient (next s).1.toNat (span a b) +
        carry (next s).1.toNat (next (next s).2).1.toNat (span a b) : Nat) := by
  wlog ordered : a ≤ b generalizing a b
  · rw [uniform_comm, span_comm, min_comm]
    exact this (span_comm a b ▸ few) (Int32.le_of_lt (Int32.not_le.mp ordered))
  have range : (b - a + 1).toUInt32.toNat = span a b := by
    rw [toNat_range ordered, Nat.mod_eq_of_lt few]
  have nonempty : (b - a + 1).toUInt32 ≠ 0 := by
    intro zero
    rw [zero] at range
    cases range
  have inside := quotient_add_carry_lt (next s).1.toNat_lt (next (next s).2).1.toNat_lt few
    (Nat.succ_pos _)
  have low := a.le_toInt
  have high := b.toInt_lt
  rw [Int32.le_iff_toInt_le] at ordered
  simp only [uniform, if_pos (Int32.le_iff_toInt_le.mpr ordered), if_neg nonempty]
  rw [Int32.toInt_add, toInt_toInt32, Int.add_bmod_bmod, toNat_below nonempty, range,
    min_eq_left ordered]
  have reach : span a b = (b.toInt - a.toInt).natAbs + 1 := rfl
  apply Int.bmod_eq_of_le
  · omega
  · omega

theorem uniform_mem (a b : Int32) (s : σ) :
    (uniform next a b s).1.toInt ∈ Set.uIcc a.toInt b.toInt := by
  have low := (uniform next a b s).1.le_toInt
  have high := (uniform next a b s).1.toInt_lt
  have reach : span a b = (b.toInt - a.toInt).natAbs + 1 := rfl
  have low' := a.le_toInt
  have high' := a.toInt_lt
  have low'' := b.le_toInt
  have high'' := b.toInt_lt
  rw [Set.mem_uIcc]
  obtain few | full := (span_le a b).lt_or_eq
  · have inside := quotient_add_carry_lt (next s).1.toNat_lt (next (next s).2).1.toNat_lt few
      (Nat.succ_pos _)
    have value : (uniform next a b s).1.toInt = _ := toInt_uniform few s
    omega
  · omega

theorem range_uniform {ι : Type} (supply : ι → σ)
    (any : ∀ word second, ∃ i, (next (supply i)).1 = word ∧ (next (next (supply i)).2).1 = second)
    (a b : Int32) :
    Set.range (fun i => (uniform next a b (supply i)).1.toInt) = Set.uIcc a.toInt b.toInt := by
  refine subset_antisymm (Set.range_subset_iff.mpr fun i => uniform_mem a b (supply i)) ?_
  intro value inside
  rw [Set.mem_uIcc] at inside
  have reach : span a b = (b.toInt - a.toInt).natAbs + 1 := rfl
  obtain few | full := (span_le a b).lt_or_eq
  · obtain ⟨word, second, part⟩ := exists_quotient_add_carry_eq few
      (n := (value - min a.toInt b.toInt).toNat) (by omega)
    obtain ⟨i, rfl, rfl⟩ := any word second
    refine ⟨i, ?_⟩
    dsimp only
    rw [toInt_uniform few, part]
    omega
  · obtain ⟨i, first, -⟩ := any (Int32.ofInt value).toUInt32 0
    refine ⟨i, ?_⟩
    have low := a.le_toInt
    have high := a.toInt_lt
    have low' := b.le_toInt
    have high' := b.toInt_lt
    dsimp only
    rw [uniform_of_full full, first]
    exact Int32.toInt_ofInt_of_le (by omega) (by omega)

end Random

namespace Environment

open UnitScript.Random

def withWords (e : Environment) (words : List UInt32) : Environment :=
  { e with random := { e.random with pending := words } }

theorem draw_eq (e : Environment) (a b : Int32) :
    e.draw a b = ((uniform Source.next a b e.random).1,
      { e with random := (uniform Source.next a b e.random).2 }) :=
  rfl

/-- Whatever supplies the words, a draw stays between its bounds, in whichever order these come, and
is what it would be if words had no bounds; every value between the bounds can be drawn. An
environment draws out of the words of its own source and leaves the source behind them. -/
theorem draws_exact (a b : Int32) :
    (∀ (σ : Type u) (next : σ → UInt32 × σ) (s : σ),
      uniform next a b s = uniform next b a s ∧
      (uniform next a b s).1.toInt ∈ Set.uIcc a.toInt b.toInt ∧
      (uniform next a b s).1.toInt =
        if span a b = 2 ^ 32 then (next s).1.toInt32.toInt
        else min a.toInt b.toInt + (quotient (next s).1.toNat (span a b) +
          carry (next s).1.toNat (next (next s).2).1.toNat (span a b) : Nat)) ∧
    Set.range (fun words : Stream' UInt32 => (uniform deal a b words).1.toInt) =
      Set.uIcc a.toInt b.toInt ∧
    ∀ e : Environment,
      e.draw a b = ((uniform Source.next a b e.random).1,
        { e with random := (uniform Source.next a b e.random).2 }) ∧
      e.draw a b = e.draw b a ∧ (e.draw a b).1.toInt ∈ Set.uIcc a.toInt b.toInt ∧
      Set.range (fun words => ((e.withWords words).draw a b).1.toInt) =
        Set.uIcc a.toInt b.toInt := by
  refine ⟨?_, range_uniform id ?_ a b, ?_⟩
  · intro σ next s
    refine ⟨uniform_comm a b s, uniform_mem a b s, ?_⟩
    split
    · next full => rw [uniform_of_full full]
    · next part => exact toInt_uniform ((span_le a b).lt_of_ne part) s
  · intro word second
    exact ⟨Stream'.cons word (Stream'.const second), rfl, rfl⟩
  · intro e
    refine ⟨draw_eq e a b, ?_⟩
    simp only [draw_eq]
    refine ⟨by rw [uniform_comm], uniform_mem a b e.random, range_uniform _ ?_ a b⟩
    intro word second
    exact ⟨[word, second], rfl, rfl⟩

def carrying : Environment :=
  (create { definition := {}, checked := by decide } 1 0).withWords [0x55555555, 0x55555556]

theorem carrying_draws_exact :
    (carrying.draw (-1) 1).1 = 0 ∧ (carrying.draw (-1) 1).2.random.pending = [] ∧
      carrying.draw (-1) 1 = carrying.draw 1 (-1) ∧
      carry 0x55555555 0x55555556 (span (-1) 1) = 1 ∧
      ∃ words, ((carrying.withWords words).draw (-1) 1).1 = 1 := by
  obtain ⟨-, -, own⟩ := draws_exact.{0} (-1) 1
  obtain ⟨-, swapped, -, all⟩ := own carrying
  refine ⟨by decide, by decide, swapped, by decide, ?_⟩
  have inside : (1 : Int) ∈ Set.uIcc (-1 : Int32).toInt (1 : Int32).toInt := by
    rw [Set.mem_uIcc]
    decide
  obtain ⟨words, drawn⟩ := all ▸ inside
  exact ⟨words, Int32.toInt_inj.mp drawn⟩

end Environment

end UnitScript
