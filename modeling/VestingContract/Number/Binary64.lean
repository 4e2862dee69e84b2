import VestingContract.Number.Power
import VestingContract.Number.Rounding

/-!
# Double-precision numbers

A double is a sign, a significand below `2^53` and an exponent of two, or an
infinity, or not a number.  All arithmetic is exact arithmetic on natural
numbers followed by one rounding to the nearest double.
-/

namespace VestingContract

/-- A double-precision number.  A finite one is its significand times two to
its exponent; the exponent is at least `-1074`, and the significand has 53
bits unless the exponent is the least one. -/
inductive Binary64 where
  | notANumber
  | infinite (negative : Bool)
  | finite (negative : Bool) (significand : Nat) (exponent : Int)
  deriving DecidableEq, Repr

namespace Binary64

def leastExponent : Int := -1074

def greatestExponent : Int := 971

def signedZero (negative : Bool) : Binary64 :=
  finite negative 0 leastExponent

/-- Numerator and denominator of a natural number times a power of two. -/
def dyadicRatio (significand : Nat) (exponent : Int) : Nat × Nat :=
  (significand * raise 2 exponent.toNat, raise 2 (-exponent).toNat)

/-- The exponent at which a positive quotient has a significand of 53 bits,
or the least exponent. -/
def exponentFor (numerator denominator : Nat) : Int :=
  let estimate : Int := Nat.log2 numerator - Nat.log2 denominator - 53
  let scaled := (numerator * raise 2 (-estimate).toNat) /
    (denominator * raise 2 estimate.toNat)
  let exponent := if scaled < raise 2 53 then estimate else estimate + 1
  max exponent leastExponent

/-- The double nearest to a quotient; a half goes to the even significand. -/
def ofRatio (negative : Bool) (numerator denominator : Nat) : Binary64 :=
  if numerator = 0 then
    signedZero negative
  else
    let exponent := exponentFor numerator denominator
    let significand := roundedQuotient
      (numerator * raise 2 (-exponent).toNat) (denominator * raise 2 exponent.toNat)
    let (significand, exponent) :=
      if significand = raise 2 53 then (raise 2 52, exponent + 1)
      else (significand, exponent)
    if greatestExponent < exponent then
      infinite negative
    else
      finite negative significand exponent

/-- The double nearest to a coefficient times a power of ten. -/
def ofScientific (negative : Bool) (coefficient : Nat) (exponent : Int) :
    Binary64 :=
  if coefficient = 0 then
    signedZero negative
  else
    let digits : Int := (Nat.toDigits 10 coefficient).length
    if 400 < digits + exponent then
      infinite negative
    else if digits + exponent < -400 then
      signedZero negative
    else
      ofRatio negative (coefficient * raise 10 exponent.toNat)
        (raise 10 (-exponent).toNat)

/-- The double nearest to an integer. -/
def ofInt (number : Int) : Binary64 :=
  ofRatio (decide (number < 0)) number.natAbs 1

/-- Neither an infinity nor not a number. -/
def isFinite : Binary64 → Bool
  | finite .. => true
  | _ => false

def isZero : Binary64 → Bool
  | finite _ significand _ => significand == 0
  | _ => false

/-- The sign bit of a number. -/
def isNegative : Binary64 → Bool
  | notANumber => false
  | infinite negative => negative
  | finite negative _ _ => negative

def negate : Binary64 → Binary64
  | notANumber => notANumber
  | infinite negative => infinite !negative
  | finite negative significand exponent =>
      finite (!negative) significand exponent

/-- A finite number as a signed multiple of a common power of two. -/
def alignedTo (exponent : Int) (negative : Bool) (significand : Nat)
    (ownExponent : Int) : Int :=
  let magnitude : Int := significand * raise 2 (ownExponent - exponent).toNat
  if negative then -magnitude else magnitude

def add : Binary64 → Binary64 → Binary64
  | notANumber, _ | _, notANumber => notANumber
  | infinite left, infinite right =>
      if left = right then infinite left else notANumber
  | infinite left, finite .. => infinite left
  | finite .., infinite right => infinite right
  | finite leftNegative leftSignificand leftExponent,
      finite rightNegative rightSignificand rightExponent =>
      let exponent := min leftExponent rightExponent
      let sum :=
        alignedTo exponent leftNegative leftSignificand leftExponent +
          alignedTo exponent rightNegative rightSignificand rightExponent
      if sum = 0 then
        signedZero (leftNegative && rightNegative)
      else
        let (numerator, denominator) := dyadicRatio sum.natAbs exponent
        ofRatio (decide (sum < 0)) numerator denominator

def mul : Binary64 → Binary64 → Binary64
  | notANumber, _ | _, notANumber => notANumber
  | infinite left, right =>
      if right.isZero then notANumber
      else infinite (left != right.isNegative)
  | left, infinite right =>
      if left.isZero then notANumber
      else infinite (left.isNegative != right)
  | finite leftNegative leftSignificand leftExponent,
      finite rightNegative rightSignificand rightExponent =>
      let (numerator, denominator) :=
        dyadicRatio (leftSignificand * rightSignificand)
          (leftExponent + rightExponent)
      ofRatio (leftNegative != rightNegative) numerator denominator

/-- The integer part of a finite number, toward zero. -/
def truncated? : Binary64 → Option Int
  | finite negative significand exponent =>
      let (numerator, denominator) := dyadicRatio significand exponent
      let magnitude : Int := numerator / denominator
      some (if negative then -magnitude else magnitude)
  | _ => none

/-- The part of a finite number behind the point, with the number's sign. -/
def fraction : Binary64 → Binary64
  | finite negative significand exponent =>
      let unit := raise 2 (-exponent).toNat
      if exponent < 0 then
        let (numerator, denominator) :=
          dyadicRatio (significand % unit) exponent
        ofRatio negative numerator denominator
      else
        signedZero negative
  | other => other

/-- The integer nearest to a finite number; a half goes to the even one. -/
def rounded? : Binary64 → Option Int
  | finite negative significand exponent =>
      let (numerator, denominator) := dyadicRatio significand exponent
      let magnitude : Int := roundedQuotient numerator denominator
      some (if negative then -magnitude else magnitude)
  | _ => none

end Binary64
end VestingContract
