import VestingContract.Number.Binary64
import VestingContract.Text.CodePoint

/-!
# Shortest decimal numbers

A double is written with the fewest decimal digits that read back as the same
double, and with those nearest to it among several of that length.  Numbers
between `1e-4` and `1e16` stand in positional notation.
-/

namespace VestingContract
namespace Binary64

/-- The power of ten of the leading digit of a positive quotient. -/
def leadingPower (numerator denominator : Nat) : Int :=
  if denominator ≤ numerator then
    ((Nat.toDigits 10 (numerator / denominator)).length : Int) - 1
  else
    let estimate :=
      (Nat.log2 denominator - Nat.log2 numerator) * 30103 / 100000
    let lifts (power : Nat) : Bool := denominator ≤ numerator * raise 10 power
    Int.negOfNat
      (((List.range' (estimate - 1) 4).find? lifts).getD (estimate + 3))

/-- The interval of the reals that round to a positive double, as numerators
over a common denominator: the lower end, the double, the upper end. -/
structure RoundingInterval where
  lower : Nat
  center : Nat
  upper : Nat
  denominator : Nat
  endsIncluded : Bool

/-- The reals that are nearer to a double than to its neighbours.  Below a
power of two the neighbour is only half as far. -/
def roundingInterval (significand : Nat) (exponent : Int) :
    RoundingInterval :=
  let (numerator, denominator) := dyadicRatio significand exponent
  let unit := raise 2 exponent.toNat
  let isPower := significand = raise 2 52 ∧ leastExponent < exponent
  { lower := 4 * numerator - (if isPower then unit else 2 * unit)
    center := 4 * numerator
    upper := 4 * numerator + 2 * unit
    denominator := 4 * denominator
    endsIncluded := significand % 2 == 0 }

/-- A decimal number rounds to the double. -/
def RoundingInterval.holds (interval : RoundingInterval)
    (coefficient : Nat) (power : Int) : Bool :=
  let value := coefficient * raise 10 power.toNat * interval.denominator
  let scale := raise 10 (-power).toNat
  if interval.endsIncluded then
    interval.lower * scale ≤ value && value ≤ interval.upper * scale
  else
    interval.lower * scale < value && value < interval.upper * scale

/-- The decimal numbers of a digit count next to the double, the nearer one
first. -/
def RoundingInterval.neighbours (interval : RoundingInterval)
    (power : Int) : List Nat :=
  let numerator := interval.center * raise 10 (-power).toNat
  let denominator := interval.denominator * raise 10 power.toNat
  let below := numerator / denominator
  let nearest := roundedQuotient numerator denominator
  if nearest = below then [below, below + 1] else [below + 1, below]

/-- The digits and the power of ten of the shortest decimal number that
rounds to a positive double. -/
def shortest (significand : Nat) (exponent : Int) : Nat × Int :=
  let interval := roundingInterval significand exponent
  let leading := leadingPower interval.center interval.denominator
  let candidates := (List.range 17).findSome? fun extraDigits =>
    let power := leading - Int.ofNat extraDigits
    ((interval.neighbours power).find? (interval.holds · power)).map
      (·, power)
  candidates.getD (0, 0)

/-- A coefficient without its trailing zeros, and the power of ten that
makes up for them; the first argument bounds their number. -/
def stripZeros : Nat → Nat → Int → Nat × Int
  | 0, coefficient, power => (coefficient, power)
  | bound + 1, coefficient, power =>
      if coefficient ≠ 0 ∧ coefficient % 10 = 0 then
        stripZeros bound (coefficient / 10) (power + 1)
      else
        (coefficient, power)

/-- Digits with the point after some of them, filled up with zeros where the
point lies outside. -/
def positional (digits : Text) (pointAfter : Int) : Text :=
  if pointAfter ≤ 0 then
    "0." ++ Text.zeros (-pointAfter).toNat ++ digits
  else if digits.length ≤ pointAfter.toNat then
    digits ++ Text.zeros (pointAfter.toNat - digits.length) ++ ".0"
  else
    digits.take pointAfter.toNat ++ "." ++ digits.drop pointAfter.toNat

/-- A power of ten behind its letter: a sign and at least two digits. -/
def exponentPart (letter : Char) (power : Int) : Text :=
  [.scalar letter, .scalar (if power < 0 then '-' else '+')] ++
    Text.padLeft 2 (.scalar '0') (Text.ofNat power.natAbs)

/-- Digits in scientific notation, the point behind the first one. -/
def scientific (digits : Text) (power : Int) : Text :=
  digits.take 1 ++
    (if 1 < digits.length then "." ++ digits.drop 1 else []) ++
    exponentPart 'e' power

/-- The shortest text of a double. -/
def toText : Binary64 → Text
  | notANumber => "nan"
  | infinite negative => if negative then "-inf" else "inf"
  | finite negative significand exponent =>
      let magnitude : Text :=
        if significand = 0 then
          "0.0"
        else
          let (coefficient, power) := shortest significand exponent
          let (coefficient, power) := stripZeros 17 coefficient power
          let digits := Text.ofNat coefficient
          let pointAfter := power + digits.length
          if -4 < pointAfter ∧ pointAfter ≤ 16 then
            positional digits pointAfter
          else
            scientific digits (pointAfter - 1)
      if negative then .scalar '-' :: magnitude else magnitude

end Binary64
end VestingContract
