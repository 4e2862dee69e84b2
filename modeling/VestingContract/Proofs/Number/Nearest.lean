import Mathlib.Algebra.Order.Field.Basic
import Mathlib.Algebra.Order.Field.Rat
import Mathlib.Data.Rat.Cast.Defs
import Mathlib.Tactic.Linarith
import VestingContract.Number.Rounding

/-!
# Nearest whole numbers

The whole number that lies nearest to a number, a half going to the even one.
Greater numbers have greater ones, an even number of units can be set aside,
and the rounded quotient is the one of the quotient.
-/

namespace VestingContract

section Order

/-- The whole number nearest to a number; a half goes to the even one. -/
structure IsNearestWhole (number : Rat) (whole : Int) : Prop where
  within : |number - whole| ≤ 1 / 2
  half : |number - whole| = 1 / 2 → Even whole

theorem isNearestWhole_self (whole : Int) : IsNearestWhole whole whole := by
  constructor
  · rw [sub_self, abs_zero]
    exact one_half_pos.le
  · rw [sub_self, abs_zero]
    exact fun half => absurd half one_half_pos.ne

variable {number later : Rat} {whole laterWhole : Int}

/-- The nearest whole numbers stand in the order of the numbers. -/
theorem IsNearestWhole.le (nearest : IsNearestWhole number whole)
    (laterNearest : IsNearestWhole later laterWhole) (le : number ≤ later) :
    whole ≤ laterWhole := by
  by_contra! less
  have next : (laterWhole : Rat) + 1 ≤ whole := by exact_mod_cast less
  have within := abs_le.mp nearest.within
  have laterWithin := abs_le.mp laterNearest.within
  -- Only a half between two neighbours is as near to both of them.
  have below : number - whole = -(1 / 2) := by
    linarith only [next, within, laterWithin, le]
  have above : later - laterWhole = 1 / 2 := by
    linarith only [next, within, laterWithin, le]
  have isNext : whole = laterWhole + 1 := by
    have sum : (whole : Rat) = laterWhole + 1 := by
      linarith only [next, below, above, le]
    exact_mod_cast sum
  have even := nearest.half (by rw [below, abs_neg, abs_of_pos one_half_pos])
  have laterEven := laterNearest.half (by rw [above, abs_of_pos one_half_pos])
  rw [isNext] at even
  exact Int.not_even_iff_odd.mpr laterEven.add_one even

theorem IsNearestWhole.unique (nearest : IsNearestWhole number whole)
    (otherNearest : IsNearestWhole number laterWhole) : whole = laterWhole :=
  le_antisymm (nearest.le otherNearest le_rfl) (otherNearest.le nearest le_rfl)

theorem IsNearestWhole.nonneg (nearest : IsNearestWhole number whole)
    (positive : 0 ≤ number) : 0 ≤ whole :=
  (isNearestWhole_self 0).le nearest (Int.cast_zero.trans_le positive)

/-- An even number of units is set aside. -/
theorem IsNearestWhole.add {even : Int} (nearest : IsNearestWhole number whole)
    (isEven : Even even) :
    IsNearestWhole (even + number) (even + whole : Int) := by
  have distance : (even : Rat) + number - (even + whole : Int) =
      number - whole := by
    rw [Int.cast_add, add_sub_add_left_eq_sub]
  constructor
  · rw [distance]
    exact nearest.within
  · rw [distance]
    exact fun half => isEven.add (nearest.half half)

end Order

section Quotients

variable (numerator : Nat) {denominator : Nat}

/-- A quotient is its whole part and the rest that the division leaves. -/
theorem cast_div_eq (positive : 0 < denominator) :
    (numerator : Rat) / denominator = (numerator / denominator : Nat) +
      ((numerator % denominator : Nat) : Rat) / denominator := by
  have notZero : (denominator : Rat) ≠ 0 := by exact_mod_cast positive.ne'
  have division : (denominator : Rat) * (numerator / denominator : Nat) +
      (numerator % denominator : Nat) = numerator := by
    exact_mod_cast Nat.div_add_mod numerator denominator
  rw [← division, add_div, mul_div_cancel_left₀ _ notZero]

theorem isNearestWhole_roundedQuotient (positive : 0 < denominator) :
    IsNearestWhole ((numerator : Rat) / denominator)
      (roundedQuotient numerator denominator) := by
  have denominatorPos : (0 : Rat) < denominator := by exact_mod_cast positive
  have nonneg : 0 ≤ ((numerator % denominator : Nat) : Rat) / denominator :=
    div_nonneg (Nat.cast_nonneg _) denominatorPos.le
  have less : ((numerator % denominator : Nat) : Rat) / denominator < 1 := by
    rw [div_lt_one denominatorPos]
    exact_mod_cast Nat.mod_lt numerator positive
  have lessHalf : 2 * (numerator % denominator) < denominator ↔
      ((numerator % denominator : Nat) : Rat) / denominator < 1 / 2 := by
    rw [div_lt_iff₀ denominatorPos, one_div_mul_eq_div, lt_div_iff₀ two_pos,
      mul_comm]
    exact_mod_cast Iff.rfl
  have moreHalf : denominator < 2 * (numerator % denominator) ↔
      1 / 2 < ((numerator % denominator : Nat) : Rat) / denominator := by
    rw [lt_div_iff₀ denominatorPos, one_div_mul_eq_div, div_lt_iff₀ two_pos,
      mul_comm]
    exact_mod_cast Iff.rfl
  rw [cast_div_eq numerator positive]
  simp only [roundedQuotient, lessHalf, moreHalf]
  generalize ((numerator % denominator : Nat) : Rat) / denominator = part at *
  generalize numerator / denominator = quotient
  -- The distance is the part that is left, or what it lacks of a unit.
  have below : |(quotient : Rat) + part - ((quotient : Nat) : Int)| = part := by
    rw [Int.cast_natCast, add_sub_cancel_left, abs_of_nonneg nonneg]
  have above : |(quotient : Rat) + part - ((quotient + 1 : Nat) : Int)| =
      1 - part := by
    rw [Int.cast_natCast, Nat.cast_succ, add_sub_add_left_eq_sub,
      abs_of_nonpos (by linarith only [less]), neg_sub]
  split_ifs with isLess isMore isEven
  · constructor <;> rw [below]
    · exact isLess.le
    · exact fun half => absurd half isLess.ne
  · constructor <;> rw [above]
    · linarith only [isMore]
    · exact fun half => absurd half (by linarith only [isMore])
  · constructor <;> rw [below]
    · exact not_lt.mp isMore
    · exact fun _ => by exact_mod_cast Nat.even_iff.mpr isEven
  · constructor <;> rw [above]
    · linarith only [isLess]
    · have odd : Odd quotient := Nat.not_even_iff_odd.mp fun even =>
        isEven (Nat.even_iff.mp even)
      exact fun _ => by exact_mod_cast odd.add_one

end Quotients

end VestingContract
