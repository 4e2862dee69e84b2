/-!
# Powers

Powers of natural numbers, of which bounds and scales are made, and the range
of the signed words of a width.
-/

namespace VestingContract

def raise (base exponent : Nat) : Nat :=
  Nat.pow base exponent

@[simp]
theorem raise_zero (base : Nat) : raise base 0 = 1 := rfl

/-- A power of a positive number is positive. -/
theorem raise_pos {base : Nat} (positive : 0 < base) (exponent : Nat) :
    0 < raise base exponent := by
  induction exponent with
  | zero => exact Nat.one_pos
  | succ exponent inductionHypothesis =>
      exact Nat.mul_pos inductionHypothesis positive

/-- A number within the range of a signed word of a width. -/
def fitsSigned (width : Nat) (number : Int) : Bool :=
  let bound : Int := raise 2 (width - 1)
  number < bound && -bound ≤ number

end VestingContract
