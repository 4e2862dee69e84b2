import VestingContract.Number.Decimal
import VestingContract.Text.Quoted

/-!
# Reading numbers

Integers in a base, doubles and decimal numbers as people write them: white
space around, digits of any script, and underscores between digits.
-/

namespace VestingContract

/-- The greatest number of decimal digits that an integer is read or written
with. -/
def digitLimit : Nat := 4300

/-- Why a text is no integer. -/
inductive WholeFault where
  | malformed (base : Nat) (source : Text)
  | tooManyDigits (count : Nat)
  deriving DecidableEq, Repr

/-- The malformed text is quoted up to a length. -/
def WholeFault.message : WholeFault → Text
  | malformed base source =>
      "invalid literal for int() with base " ++ Text.ofNat base ++ ": " ++
        source.quoted.take 200
  | tooManyDigits count =>
      "Exceeds the limit (4300 digits) for integer string conversion: " ++
        "value has " ++ Text.ofNat count ++
        " digits; use sys.set_int_max_str_digits() to increase the limit"

/-- A code point as it is written in ASCII; what is neither ASCII nor a digit
nor white space is replaced by a mark that no number holds. -/
def CodePoint.toNumberChar (codePoint : CodePoint) : Char :=
  if codePoint.value < 127 then
    Char.ofNat codePoint.value
  else if codePoint.isBlank then
    ' '
  else
    match codePoint.decimalDigit? with
    | some digit => Char.ofNat (48 + digit)
    | none => '?'

/-- White space around a number. -/
def isNumberSpace (char : Char) : Bool :=
  char == ' ' || ('\t' ≤ char && char ≤ '\r')

/-- The ASCII characters of a number without the white space around it. -/
def numberChars (source : Text) : List Char :=
  let chars := source.map CodePoint.toNumberChar
  ((chars.dropWhile isNumberSpace).reverse.dropWhile isNumberSpace).reverse

/-- The value of a digit or letter in bases up to 36. -/
def digitValue? (char : Char) : Option Nat :=
  if '0' ≤ char ∧ char ≤ '9' then
    some (char.toNat - 48)
  else if 'a' ≤ char ∧ char ≤ 'z' then
    some (char.toNat - 87)
  else if 'A' ≤ char ∧ char ≤ 'Z' then
    some (char.toNat - 55)
  else
    none

def isDigitOf (base : Nat) (char : Char) : Bool :=
  match digitValue? char with
  | some digit => digit < base
  | none => false

/-- The number that digits of a base spell. -/
def ofDigits (base : Nat) (digits : List Char) : Nat :=
  digits.foldl
    (fun number digit => number * base + (digitValue? digit).getD 0) 0

/-- Each underscore stands between two other characters of the run. -/
def underscoresSeparate : List Char → Bool
  | [] => true
  | ['_'] => false
  | '_' :: '_' :: _ => false
  | _ :: rest => underscoresSeparate rest

/-- A sign and what follows it. -/
def splitSign : List Char → Bool × List Char
  | '-' :: rest => (true, rest)
  | '+' :: rest => (false, rest)
  | chars => (false, chars)

/-- The letters that announce a base behind a leading zero. -/
def basePrefixes : List (Char × Nat) :=
  [('x', 16), ('X', 16), ('o', 8), ('O', 8), ('b', 2), ('B', 2)]

/-- Digits without an announcement of their base, which is found out where
the wanted base is zero.  An announced base allows one underscore. -/
def splitBase (base : Nat) (chars : List Char) : Nat × List Char :=
  let unannounced := (if base = 0 then 10 else base, chars)
  match chars with
  | '0' :: letter :: rest =>
      match basePrefixes.lookup letter with
      | some announced =>
          if base = 0 ∨ base = announced then
            (announced, match rest with
              | '_' :: rest => rest
              | rest => rest)
          else
            unannounced
      | none => unannounced
  | _ => unannounced

/-- A base that is a power of two, whose digits may be any number. -/
def isBinaryBase (base : Nat) : Bool :=
  base == 2 || base == 4 || base == 8 || base == 16 || base == 32

/-- Read an integer in a base; base zero asks for the announced base, and
then a decimal number other than zero has no leading zero. -/
def readWhole (base : Nat) (source : Text) : Except WholeFault Int :=
  let malformed := Except.error (WholeFault.malformed base source)
  let (negative, unsigned) := splitSign (numberChars source)
  let (actualBase, digits) := splitBase base unsigned
  let run := digits.takeWhile fun char =>
    char == '_' || isDigitOf actualBase char
  let spelled := run.filter (· != '_')
  if spelled.isEmpty || run.head? == some '_' ||
      !underscoresSeparate run then
    malformed
  else if !isBinaryBase actualBase && digitLimit < spelled.length then
    .error (.tooManyDigits spelled.length)
  else
    let number := ofDigits actualBase spelled
    if run.length != digits.length then
      malformed
    else if base = 0 && actualBase = 10 && run.head? == some '0' &&
        number != 0 then
      malformed
    else
      .ok (if negative then -number else number)

/-- The parts of an unsigned decimal number: the digits before and after the
point, and the exponent. -/
structure DecimalParts where
  integral : List Char
  fractional : List Char
  exponent : Int

/-- Read the digits of an exponent with its sign. -/
def readExponent? (chars : List Char) : Option Int :=
  let (negative, digits) := splitSign chars
  if digits.isEmpty || !digits.all (isDigitOf 10) then
    none
  else
    let magnitude : Int := ofDigits 10 digits
    some (if negative then -magnitude else magnitude)

/-- Split an unsigned decimal number; at least one digit stands before or
after the point. -/
def splitDecimal? (chars : List Char) : Option DecimalParts :=
  let integral := chars.takeWhile (isDigitOf 10)
  let rest := chars.dropWhile (isDigitOf 10)
  let (fractional, rest) :=
    match rest with
    | '.' :: rest =>
        (rest.takeWhile (isDigitOf 10), rest.dropWhile (isDigitOf 10))
    | rest => ([], rest)
  if integral.isEmpty && fractional.isEmpty then
    none
  else
    match rest with
    | [] => some ⟨integral, fractional, 0⟩
    | letter :: rest =>
        if letter = 'e' ∨ letter = 'E' then
          (readExponent? rest).map (⟨integral, fractional, ·⟩)
        else
          none

/-- The coefficient and the power of ten of a split decimal number. -/
def DecimalParts.scientific (parts : DecimalParts) : Nat × Int :=
  (ofDigits 10 (parts.integral ++ parts.fractional),
    parts.exponent - parts.fractional.length)

/-- Characters in lower case, ASCII letters only. -/
def lowerAscii (chars : List Char) : List Char :=
  chars.map Char.toLower

/-- Characters without their underscores, if each one stands between two
digits. -/
def dropUnderscores? (chars : List Char) : Option (List Char) :=
  let separates (before after : Char) : Bool :=
    (before != '_' || isDigitOf 10 after) &&
      (after != '_' || isDigitOf 10 before)
  if chars.head? == some '_' || chars.getLast? == some '_' ||
      !(chars.zip (chars.drop 1)).all fun pair =>
        separates pair.1 pair.2 then
    none
  else
    some (chars.filter (· != '_'))

def readBinary64? (source : Text) : Option Binary64 := do
  let chars ← dropUnderscores? (numberChars source)
  let (negative, unsigned) := splitSign chars
  let word := lowerAscii unsigned
  if word = "inf".toList ∨ word = "infinity".toList then
    return .infinite negative
  else if word = "nan".toList then
    return .notANumber
  else
    let parts ← splitDecimal? unsigned
    let (coefficient, power) := parts.scientific
    return .ofScientific negative coefficient power

/-- Read a decimal number; underscores may stand anywhere in it. -/
def readDecimal? (source : Text) : Option Decimal := do
  let chars := (source.trim.map CodePoint.toNumberChar).filter (· != '_')
  let (negative, unsigned) := splitSign chars
  let word := lowerAscii unsigned
  let payload? (start : Nat) : Option Text :=
    let digits := word.drop start
    if digits.all (isDigitOf 10) then
      some (Text.ofChars (digits.dropWhile (· == '0')))
    else
      none
  if word = "inf".toList ∨ word = "infinity".toList then
    return .infinite negative
  else if word.take 3 = "nan".toList then
    return .notANumber negative false (← payload? 3)
  else if word.take 4 = "snan".toList then
    return .notANumber negative true (← payload? 4)
  else
    let parts ← splitDecimal? unsigned
    let (coefficient, power) := parts.scientific
    return .finite negative coefficient power

/-- An integer whose text would exceed the limit of digits. -/
structure UnspellableWhole where
  deriving DecidableEq, Repr

/-- The refusal to write an integer of too many digits. -/
def UnspellableWhole.message (_ : UnspellableWhole) : Text :=
  "Exceeds the limit (4300 digits) for integer string conversion; " ++
    "use sys.set_int_max_str_digits() to increase the limit"

/-- The text of an integer within the limit of digits. -/
def spellWhole (number : Int) : Except UnspellableWhole Text :=
  if raise 10 digitLimit ≤ number.natAbs then
    .error ⟨⟩
  else
    .ok (Text.ofInt number)

end VestingContract
