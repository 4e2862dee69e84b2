import VestingContract.Number.Shortest

/-!
# Decimal numbers of a chosen precision

A double written with a given number of places behind the point, in
scientific notation with a given number of digits, or in the shorter of the
two notations.  The exact value is rounded once, a half to the even digit.
-/

namespace VestingContract

/-- The notations of a chosen precision. -/
inductive FixedNotation where
  | places
  | scientific
  | general
  deriving DecidableEq, Repr

namespace Binary64

/-- Digits with a point before the last ones of them. -/
def pointBefore (places : Nat) (keepPoint : Bool) (digits : Text) : Text :=
  let digits := Text.padLeft (places + 1) (.scalar '0') digits
  let integral := digits.take (digits.length - places)
  if places = 0 then
    if keepPoint then integral ++ "." else integral
  else
    integral ++ "." ++ digits.drop (digits.length - places)

/-- A positive quotient rounded to a number of significant digits, with the
power of ten of the leading one. -/
def significantDigits (count numerator denominator : Nat) : Nat × Int :=
  let leading := leadingPower numerator denominator
  let shift := (count : Int) - 1 - leading
  let coefficient := roundedQuotient (numerator * raise 10 shift.toNat)
    (denominator * raise 10 (-shift).toNat)
  if coefficient = raise 10 count then
    (coefficient / 10, leading + 1)
  else
    (coefficient, leading)

/-- A text of digits and a point without the zeros at its end and without a
point that nothing follows. -/
def dropTrailingZeros (text : Text) : Text :=
  if text.contains (.scalar '.') then
    let kept := text.reverse.dropWhile (· == .scalar '0')
    (match kept with
      | .scalar '.' :: rest => rest
      | kept => kept).reverse
  else
    text

/-- The magnitude of a finite number in a notation; `keepPoint` keeps the
point and the trailing zeros that are dropped otherwise. -/
def magnitudeText (notationKind : FixedNotation) (precision : Nat)
    (keepPoint : Bool) (numerator denominator : Nat) : Text :=
  let ratio : Nat → Nat × Int := fun count =>
    if numerator = 0 then (0, 0)
    else significantDigits count numerator denominator
  let scientificText (count : Nat) : Text × Text :=
    let (coefficient, power) := ratio count
    (pointBefore (count - 1) keepPoint (Text.ofNat coefficient),
      exponentPart 'e' power)
  match notationKind with
  | .places =>
      pointBefore precision keepPoint (Text.ofNat
        (roundedQuotient (numerator * raise 10 precision) denominator))
  | .scientific =>
      let (digits, power) := scientificText (precision + 1)
      digits ++ power
  | .general =>
      let count := max precision 1
      let (coefficient, power) := ratio count
      let trim (digits : Text) : Text :=
        if keepPoint then digits else dropTrailingZeros digits
      if -4 ≤ power ∧ power < count then
        let places := ((count : Int) - 1 - power).toNat
        trim (pointBefore places keepPoint (Text.ofNat coefficient))
      else
        let (digits, power) := scientificText count
        trim digits ++ power

/-- A number without its sign in a notation of a chosen precision. -/
def toFixed (notationKind : FixedNotation) (precision : Nat)
    (keepPoint : Bool) : Binary64 → Text
  | notANumber => "nan"
  | infinite _ => "inf"
  | finite _ significand exponent =>
      let (numerator, denominator) := dyadicRatio significand exponent
      magnitudeText notationKind precision keepPoint numerator denominator

end Binary64
end VestingContract
