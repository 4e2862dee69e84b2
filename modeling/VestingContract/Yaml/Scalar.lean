import VestingContract.Text.Case
import VestingContract.Yaml.Node

/-!
# Values of YAML scalars

The value that the content of a scalar spells under each kind: integers in
several bases, floating point numbers, truth values, bytes in base sixty-four
and times.
-/

namespace VestingContract
namespace Yaml

/-- A sign and what follows it; nothing has no sign. -/
def splitSign (content : Text) : Except Fault (Bool × Text) :=
  match content with
  | [] => .error .emptyNumber
  | first :: rest =>
      if first = .scalar '-' then .ok (true, rest)
      else if first = .scalar '+' then .ok (false, rest)
      else .ok (false, first :: rest)

/-- A number that digits of a base spell. -/
def wholeIn (base : Nat) (digits : Text) : Except Fault Int :=
  (readWhole base digits).mapError .whole

/-- Digits in base sixty, the most significant one first, as a number. -/
def sexagesimal (digits : List Int) : Int :=
  digits.foldl (fun number digit => number * 60 + digit) 0

/-- An unsigned integer; its first characters tell the base. -/
def unsignedWhole (content : Text) : Except Fault Int := do
  if content = "0" then
    return 0
  else if content.take 2 = "0b" then
    wholeIn 2 (content.drop 2)
  else if content.take 2 = "0x" then
    wholeIn 16 (content.drop 2)
  else
    match content with
    | [] => throw .emptyNumber
    | first :: _ =>
        if first = .scalar '0' then
          wholeIn 8 content
        else if content.contains (.scalar ':') then
          return sexagesimal
            (← (Text.splitOn (.scalar ':') content).mapM (wholeIn 10))
        else
          wholeIn 10 content

/-- An integer; underscores in it are left out. -/
def wholeValue (content : Text) : Except Fault Int := do
  let (negative, rest) ← splitSign (content.filter (· != .scalar '_'))
  let magnitude ← unsignedWhole rest
  return if negative then -magnitude else magnitude

/-- A double that a text spells. -/
def realIn (content : Text) : Except Fault Binary64 :=
  match readBinary64? content with
  | some number => .ok number
  | none => .error (.real content)

/-- Parts in base sixty, the least significant one first, added to a sum as a
double.  The sum is rounded at each step, and the unit of each part has to be
the size of a double. -/
def sexagesimalReal (sum : Binary64) (unit : Int) :
    List Binary64 → Except Fault Binary64
  | [] => .ok sum
  | part :: parts =>
      match Binary64.ofInt unit with
      | .finite negative significand exponent =>
          sexagesimalReal
            (sum.add (part.mul (.finite negative significand exponent)))
            (unit * 60) parts
      | _ => .error .unitTooLarge

/-- A floating point number; underscores in it are left out. -/
def realValue (content : Text) : Except Fault Binary64 := do
  let lowered := Text.toLower (content.filter (· != .scalar '_'))
  let (negative, rest) ← splitSign lowered
  let magnitude ←
    if rest = ".inf" then
      pure (Binary64.infinite false)
    else if rest = ".nan" then
      pure Binary64.notANumber
    else if rest.contains (.scalar ':') then do
      let parts ← (Text.splitOn (.scalar ':') rest).mapM realIn
      sexagesimalReal (.signedZero false) 1 parts.reverse
    else
      realIn rest
  return if negative then magnitude.negate else magnitude

/-- The words that are true, in lower case. -/
def trueWords : List Text := ["yes", "true", "on"]

/-- The words that are false, in lower case. -/
def falseWords : List Text := ["no", "false", "off"]

def truthValue (content : Text) : Except Fault Bool :=
  let word := content.toLower
  if trueWords.contains word then .ok true
  else if falseWords.contains word then .ok false
  else .error (.truthValue word)

/-- The value of a letter in base sixty-four. -/
def base64Digit? (char : Char) : Option Nat :=
  if 'A' ≤ char ∧ char ≤ 'Z' then some (char.toNat - 65)
  else if 'a' ≤ char ∧ char ≤ 'z' then some (char.toNat - 71)
  else if '0' ≤ char ∧ char ≤ '9' then some (char.toNat + 4)
  else if char = '+' then some 62
  else if char = '/' then some 63
  else none

/-- Bytes in base sixty-four.  `place` counts the digits of the group so far
and `rest` holds the bits that no byte has taken; padding ends the text when
the group is complete, and other characters are passed over. -/
def base64Bytes (place pads rest : Nat) :
    List Char → Except Fault (List UInt8)
  | [] => if place = 0 then .ok [] else .error .malformed
  | char :: chars =>
      if char = '=' then
        if 2 ≤ place then
          if 4 ≤ place + (pads + 1) then .ok []
          else base64Bytes place (pads + 1) rest chars
        else
          base64Bytes place pads rest chars
      else
        match base64Digit? char, place with
        | none, _ => base64Bytes place pads rest chars
        | some digit, 0 => base64Bytes 1 0 digit chars
        | some digit, 1 =>
            (base64Bytes 2 0 (digit % 16) chars).map
              (UInt8.ofNat (rest * 4 + digit / 16) :: ·)
        | some digit, 2 =>
            (base64Bytes 3 0 (digit % 4) chars).map
              (UInt8.ofNat (rest * 16 + digit / 4) :: ·)
        | some digit, _ =>
            (base64Bytes 0 0 0 chars).map
              (UInt8.ofNat (rest * 64 + digit) :: ·)

/-- Bytes that an ASCII text spells. -/
def bytesValue (content : Text) : Except Fault (List UInt8) :=
  if content.all fun codePoint => codePoint.value < 128 then
    base64Bytes 0 0 0 (content.map fun codePoint =>
      Char.ofNat codePoint.value)
  else
    .error .malformed

def timeValue (content : Text) : Except Fault Value :=
  match content.toChars?.bind Timestamp.ofChars? with
  | none => .error .notADate
  | some timestamp => timestamp.toValue.mapError .calendar

/-- The value of a scalar; the kinds of sequences and mappings have none. -/
def scalarValue (tag : Tag) (content : Text) : Except Fault Value :=
  match tag with
  | .null => .ok .null
  | .bool => .bool <$> truthValue content
  | .int => .int <$> wholeValue content
  | .float => .float <$> realValue content
  | .binary => .bytes <$> bytesValue content
  | .timestamp => timeValue content
  | .str => .ok (.text content)
  | _ => .error .malformed

end Yaml
end VestingContract
