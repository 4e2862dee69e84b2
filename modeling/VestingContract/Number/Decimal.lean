import VestingContract.Number.Binary64
import VestingContract.Number.Shortest
import VestingContract.Text.Blank
import VestingContract.Text.DecimalDigit

/-!
# Decimal numbers

Decimal floating point: a sign, a coefficient and a power of ten, with the
trailing zeros that the number was written with.
-/

namespace VestingContract

/-- A decimal number; what is not a number may carry digits of its own. -/
inductive Decimal where
  | finite (negative : Bool) (coefficient : Nat) (exponent : Int)
  | infinite (negative : Bool)
  | notANumber (negative signaling : Bool) (payload : Text)
  deriving DecidableEq, Repr

namespace Decimal

/-- Neither an infinity nor not a number. -/
def isFinite : Decimal → Bool
  | finite .. => true
  | _ => false

/-- The magnitude of a finite number: positional notation as long as the
exponent is not positive and at most five zeros follow the point. -/
def magnitudeText (coefficient : Nat) (exponent : Int) : Text :=
  let digits := Text.ofNat coefficient
  let leftDigits := exponent + digits.length
  let pointAfter := if exponent ≤ 0 ∧ -6 < leftDigits then leftDigits else 1
  let mantissa : Text :=
    if pointAfter ≤ 0 then
      "0." ++ Text.zeros (-pointAfter).toNat ++ digits
    else if digits.length ≤ pointAfter.toNat then
      digits ++ Text.zeros (pointAfter.toNat - digits.length)
    else
      digits.take pointAfter.toNat ++ "." ++ digits.drop pointAfter.toNat
  let power := leftDigits - pointAfter
  if power = 0 then
    mantissa
  else
    mantissa ++ (if power < 0 then "E-" else "E+" : Text) ++
      Text.ofNat power.natAbs

def toText : Decimal → Text
  | finite negative coefficient exponent =>
      sign negative ++ magnitudeText coefficient exponent
  | infinite negative => sign negative ++ "Infinity"
  | notANumber negative signaling payload =>
      sign negative ++ (if signaling then "sNaN" else "NaN" : Text) ++ payload
where
  /-- A minus sign in front of what is negative. -/
  sign (negative : Bool) : Text := if negative then "-" else []

/-- The integer part of a finite number, toward zero. -/
def truncated? : Decimal → Option Int
  | finite negative coefficient exponent =>
      let magnitude : Int :=
        coefficient * raise 10 exponent.toNat / raise 10 (-exponent).toNat
      some (if negative then -magnitude else magnitude)
  | _ => none

def toBinary64 : Decimal → Binary64
  | finite negative coefficient exponent =>
      .ofScientific negative coefficient exponent
  | infinite negative => .infinite negative
  | notANumber .. => .notANumber

end Decimal

/-- A number as a signed coefficient that ten does not divide, times a power
of ten. -/
structure ExactDecimal where
  negative : Bool
  coefficient : Nat
  power : Int
  deriving DecidableEq, Repr

namespace ExactDecimal

/-- The normal form of a coefficient times a power of ten. -/
def ofScientific (negative : Bool) (coefficient : Nat) (power : Int) :
    ExactDecimal :=
  if coefficient = 0 then
    ⟨false, 0, 0⟩
  else
    let (coefficient, power) := Binary64.stripZeros
      (Nat.log2 coefficient + 1) coefficient power
    ⟨negative, coefficient, power⟩

/-- The exact value of an integer. -/
def ofInt (number : Int) : ExactDecimal :=
  ofScientific (decide (number < 0)) number.natAbs 0

/-- The exact value of a finite double. -/
def ofBinary64? : Binary64 → Option ExactDecimal
  | .finite negative significand exponent =>
      if 0 ≤ exponent then
        some (ofScientific negative (significand * raise 2 exponent.toNat) 0)
      else
        some (ofScientific negative (significand * raise 5 (-exponent).toNat)
          exponent)
  | _ => none

/-- The exact value of a finite decimal number. -/
def ofDecimal? : Decimal → Option ExactDecimal
  | .finite negative coefficient exponent =>
      some (ofScientific negative coefficient exponent)
  | _ => none

end ExactDecimal
end VestingContract
