/-!
# Rounding of quotients

The integers next to a quotient of natural numbers, with a half going to the
even neighbour.
-/

namespace VestingContract

/-- The natural number nearest to a quotient; a half goes to the even
neighbour. -/
def roundedQuotient (numerator denominator : Nat) : Nat :=
  let quotient := numerator / denominator
  let remainder := numerator % denominator
  if 2 * remainder < denominator then
    quotient
  else if denominator < 2 * remainder then
    quotient + 1
  else if quotient % 2 = 0 then
    quotient
  else
    quotient + 1

/-- The rounded quotient misses the quotient by half a unit at most. -/
theorem roundedQuotient_within_half (numerator denominator : Nat)
    (positive : 0 < denominator) :
    2 * (roundedQuotient numerator denominator * denominator) ≤
        2 * numerator + denominator ∧
      2 * numerator ≤
        2 * (roundedQuotient numerator denominator * denominator) +
          denominator := by
  have division := Nat.div_add_mod numerator denominator
  have small := Nat.mod_lt numerator positive
  have product : denominator * (numerator / denominator) =
      numerator / denominator * denominator := Nat.mul_comm _ _
  have next : (numerator / denominator + 1) * denominator =
      numerator / denominator * denominator + denominator := by
    rw [Nat.add_mul, Nat.one_mul]
  simp only [roundedQuotient]
  split
  · omega
  · split
    · rw [next]; omega
    · split
      · omega
      · rw [next]; omega

end VestingContract
