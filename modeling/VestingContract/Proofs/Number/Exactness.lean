import Mathlib.Algebra.Order.Field.Rat
import Mathlib.Data.Rat.Cast.Defs
import Mathlib.Tactic.Ring
import VestingContract.Number.Binary64

/-!
# Exact doubles

A quotient with a power of two below the line is a double as it stands if its
significand has at most 53 bits.  So the part of a double behind its point is
exact, and so is a product that needs no more bits than that.
-/

namespace VestingContract

theorem raise_eq_pow (base exponent : Nat) :
    raise base exponent = base ^ exponent := rfl

/-- A common factor makes no difference to the rounded quotient. -/
theorem roundedQuotient_mul_mul (numerator denominator : Nat) {factor : Nat}
    (positive : 0 < factor) :
    roundedQuotient (numerator * factor) (denominator * factor) =
      roundedQuotient numerator denominator := by
  have double : 2 * (numerator % denominator * factor) =
      2 * (numerator % denominator) * factor := (Nat.mul_assoc _ _ _).symm
  simp only [roundedQuotient, Nat.mul_div_mul_right _ _ positive,
    Nat.mul_mod_mul_right, double, Nat.mul_lt_mul_right positive]

theorem roundedQuotient_one (numerator : Nat) :
    roundedQuotient numerator 1 = numerator := by
  rw [roundedQuotient, Nat.mod_one, Nat.div_one]
  rfl

theorem roundedQuotient_zero {denominator : Nat} (positive : 0 < denominator) :
    roundedQuotient 0 denominator = 0 := by
  have scaled := roundedQuotient_mul_mul 0 1 positive
  rwa [Nat.zero_mul, Nat.one_mul, roundedQuotient_one] at scaled

namespace Binary64

variable {significand : Nat}

theorem log2_mul_two_pow (positive : 0 < significand) (scale : Nat) :
    (significand * 2 ^ scale).log2 = significand.log2 + scale := by
  have least := Nat.log2_self_le positive.ne'
  have less := Nat.lt_log2_self (n := significand)
  rw [Nat.log2_eq_iff (Nat.mul_pos positive (Nat.two_pow_pos scale)).ne']
  constructor
  · rw [Nat.pow_add]
    exact Nat.mul_le_mul_right _ least
  · rw [Nat.add_right_comm, Nat.pow_add]
    exact Nat.mul_lt_mul_of_pos_right less (Nat.two_pow_pos scale)

/-- A significand of 53 bits is reached by `shift` further bits, or the least
exponent is. -/
theorem exponentFor_mul_two_pow (positive : 0 < significand)
    (less : significand < 2 ^ 53) (scale bits : Nat) :
    exponentFor (significand * 2 ^ scale) (2 ^ (bits + scale)) =
      max (-((bits + (52 - significand.log2) : Nat) : Int)) leastExponent := by
  have length : significand.log2 < 53 := (Nat.log2_lt positive.ne').mpr less
  have least := Nat.log2_self_le positive.ne'
  have estimate : ((significand * 2 ^ scale).log2 : Int) -
      (2 ^ (bits + scale) : Nat).log2 - 53 =
        -((bits + (53 - significand.log2) : Nat) : Int) := by
    rw [log2_mul_two_pow positive, Nat.log2_two_pow]
    omega
  have enough : 2 ^ 53 ≤ significand * 2 ^ scale *
      2 ^ (bits + (53 - significand.log2)) / 2 ^ (bits + scale) := by
    rw [Nat.le_div_iff_mul_le (Nat.two_pow_pos _)]
    calc 2 ^ 53 * 2 ^ (bits + scale)
        = 2 ^ significand.log2 * 2 ^ scale *
            2 ^ (bits + (53 - significand.log2)) := by
          rw [← Nat.pow_add, ← Nat.pow_add, ← Nat.pow_add]
          congr 1
          omega
      _ ≤ _ := Nat.mul_le_mul_right _ (Nat.mul_le_mul_right _ least)
  simp only [exponentFor, estimate, raise_eq_pow, neg_neg, Int.toNat_natCast,
    Int.toNat_neg_natCast, pow_zero, mul_one]
  rw [if_neg (Nat.not_lt.mpr enough)]
  congr 1
  omega

/-- What fits into a double is not rounded. -/
theorem exists_ofRatio_eq (negative : Bool) (positive : 0 < significand)
    (less : significand < 2 ^ 53) (scale bits : Nat) (within : bits ≤ 1074) :
    ∃ shift, ofRatio negative (significand * 2 ^ scale) (2 ^ (bits + scale)) =
      finite negative (significand * 2 ^ shift) (-((bits + shift : Nat) : Int)) := by
  have length : significand.log2 < 53 := (Nat.log2_lt positive.ne').mpr less
  refine ⟨min (52 - significand.log2) (1074 - bits), ?_⟩
  generalize isShift : min (52 - significand.log2) (1074 - bits) = shift
  have exponent : exponentFor (significand * 2 ^ scale) (2 ^ (bits + scale)) =
      -((bits + shift : Nat) : Int) := by
    rw [exponentFor_mul_two_pow positive less, leastExponent]
    omega
  have few : significand * 2 ^ shift < 2 ^ 53 := by
    have room : shift ≤ 52 - significand.log2 := by omega
    calc significand * 2 ^ shift
        < 2 ^ (significand.log2 + 1) * 2 ^ shift :=
          Nat.mul_lt_mul_of_pos_right Nat.lt_log2_self (Nat.two_pow_pos _)
      _ ≤ 2 ^ 53 := by
          rw [← Nat.pow_add]
          exact Nat.pow_le_pow_right (by decide) (by omega)
  have quotient : roundedQuotient
      (significand * 2 ^ scale * 2 ^ (bits + shift)) (2 ^ (bits + scale)) =
        significand * 2 ^ shift := by
    rw [← roundedQuotient_one (significand * 2 ^ shift),
      ← roundedQuotient_mul_mul (significand * 2 ^ shift) 1
        (Nat.two_pow_pos (bits + scale)), Nat.one_mul]
    congr 1
    ring
  have notZero : ¬ significand * 2 ^ scale = 0 :=
    (Nat.mul_pos positive (Nat.two_pow_pos scale)).ne'
  have notGreatest : ¬ greatestExponent < -((bits + shift : Nat) : Int) := by
    rw [greatestExponent]
    omega
  simp only [ofRatio, notZero, exponent, raise_eq_pow, neg_neg,
    Int.toNat_natCast, Int.toNat_neg_natCast, pow_zero, mul_one, quotient,
    if_false, few.ne, notGreatest]

theorem ofInt_million : ofInt 1000000 = finite false (1000000 * 2 ^ 33) (-33) := by
  decide

theorem dyadicRatio_neg (bits : Nat) :
    dyadicRatio significand (-(bits : Int)) = (significand, 2 ^ bits) := by
  rw [dyadicRatio, neg_neg, Int.toNat_natCast, Int.toNat_neg_natCast,
    raise_zero, Nat.mul_one, raise_eq_pow]

theorem mul_finite (leftSignificand rightSignificand : Nat)
    (leftExponent rightExponent : Int) :
    (finite false leftSignificand leftExponent).mul
        (finite false rightSignificand rightExponent) =
      ofRatio false
        (dyadicRatio (leftSignificand * rightSignificand)
          (leftExponent + rightExponent)).1
        (dyadicRatio (leftSignificand * rightSignificand)
          (leftExponent + rightExponent)).2 := rfl

theorem rounded?_finite (exponent : Int) :
    (finite false significand exponent).rounded? =
      some ((roundedQuotient (dyadicRatio significand exponent).1
        (dyadicRatio significand exponent).2 : Nat) : Int) := rfl

theorem rounded?_zero_mul_million :
    ((signedZero false).mul (ofInt 1000000)).rounded? = some 0 := by
  rw [ofInt_million]
  simp only [signedZero, mul, dyadicRatio, Nat.zero_mul, ofRatio, if_true,
    rounded?, bne_self_eq_false]
  rw [roundedQuotient_zero (raise_pos Nat.two_pos _)]
  rfl

theorem fraction_of_nonneg {exponent : Int} (nonneg : 0 ≤ exponent) :
    (finite false significand exponent).fraction = signedZero false := by
  simp only [fraction, not_lt.mpr nonneg, if_false]

theorem fraction_neg {bits : Nat} (positive : 0 < bits) :
    (finite false significand (-(bits : Int))).fraction =
      ofRatio false (significand % 2 ^ bits) (2 ^ bits) := by
  have less : -(bits : Int) < 0 := by omega
  simp only [fraction, less, if_true, dyadicRatio, raise_eq_pow, neg_neg,
    Int.toNat_natCast, Int.toNat_neg_natCast, pow_zero, mul_one]

/-- The number that a finite double is. -/
def toRat? : Binary64 → Option Rat
  | finite negative significand exponent =>
      some ((if negative then -1 else 1) * significand * 2 ^ exponent)
  | _ => none

theorem toRat?_finite (exponent : Int) :
    (finite false significand exponent).toRat? =
      some (((dyadicRatio significand exponent).1 : Rat) /
        (dyadicRatio significand exponent).2) := by
  rcases Int.eq_nat_or_neg exponent with ⟨number, rfl | rfl⟩
  · simp [toRat?, dyadicRatio, raise_eq_pow]
  · simp [toRat?, dyadicRatio, raise_eq_pow, div_eq_mul_inv]

/-- A part behind the point that has few bits is multiplied exactly. -/
theorem rounded?_mul_million {part : Nat} (positive : 0 < part)
    (small : part < 2 ^ 33) {bits : Nat} (few : bits ≤ 33) :
    ((ofRatio false part (2 ^ bits)).mul (ofInt 1000000)).rounded? =
      some ((roundedQuotient (part * 1000000) (2 ^ bits) : Nat) : Int) := by
  have lessPart : part < 2 ^ 53 := small.trans (by decide)
  have lessProduct : part * 1000000 < 2 ^ 53 :=
    (Nat.mul_lt_mul_of_pos_right small (by decide)).trans (by decide)
  obtain ⟨shift, isFraction⟩ := exists_ofRatio_eq false positive lessPart 0
    bits (by omega)
  obtain ⟨productShift, isProduct⟩ := exists_ofRatio_eq false
    (Nat.mul_pos positive (by decide)) lessProduct (shift + 33) bits (by omega)
  rw [pow_zero, mul_one, add_zero] at isFraction
  rw [isFraction, ofInt_million]
  have exponent : -((bits + shift : Nat) : Int) + -33 =
      -((bits + (shift + 33) : Nat) : Int) := by omega
  have significands : part * 2 ^ shift * (1000000 * 2 ^ 33) =
      part * 1000000 * 2 ^ (shift + 33) := by ring
  rw [mul_finite, exponent, significands, dyadicRatio_neg, isProduct,
    rounded?_finite, dyadicRatio_neg, Nat.pow_add,
    roundedQuotient_mul_mul _ _ (Nat.two_pow_pos productShift)]

/-- A double with few bits behind its point has the exact part there. -/
theorem rounded?_fraction_mul_million {exponent : Int} (few : -33 ≤ exponent) :
    ((finite false significand exponent).fraction.mul
        (ofInt 1000000)).rounded? =
      some ((roundedQuotient
        ((dyadicRatio significand exponent).1 %
          (dyadicRatio significand exponent).2 * 1000000)
        (dyadicRatio significand exponent).2 : Nat) : Int) := by
  rcases lt_or_ge exponent 0 with negative | nonneg
  · obtain ⟨bits, rfl⟩ : ∃ bits : Nat, exponent = -(bits : Int) :=
      ⟨exponent.natAbs, by omega⟩
    rw [fraction_neg (by omega), dyadicRatio_neg]
    have small : significand % 2 ^ bits < 2 ^ 33 :=
      (Nat.mod_lt _ (Nat.two_pow_pos bits)).trans_le
        (Nat.pow_le_pow_right (by decide) (by omega))
    rcases Nat.eq_zero_or_pos (significand % 2 ^ bits) with zero | positive
    · rw [zero, ofRatio, if_pos rfl, rounded?_zero_mul_million, Nat.zero_mul,
        roundedQuotient_zero (Nat.two_pow_pos bits)]
      rfl
    · exact rounded?_mul_million positive small (by omega)
  · have unit : (dyadicRatio significand exponent).2 = 1 := by
      simp only [dyadicRatio, Int.toNat_of_nonpos (neg_nonpos.mpr nonneg),
        raise_zero]
    rw [fraction_of_nonneg nonneg, rounded?_zero_mul_million, unit,
      Nat.mod_one, Nat.zero_mul, roundedQuotient_one]
    rfl

end Binary64
end VestingContract
