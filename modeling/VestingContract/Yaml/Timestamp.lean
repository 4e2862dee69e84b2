import VestingContract.Calendar.Date
import VestingContract.Number.Reading
import VestingContract.Json.Lexeme
import VestingContract.Value.Basic

/-!
# Times in YAML documents

A date, or a date with a time of day, a fraction of a second and a distance
from universal time.
-/

namespace VestingContract
namespace Yaml

/-- A distance from universal time as it is written. -/
inductive Zone where
  | universal
  | offset (negative : Bool) (hours minutes : Nat)
  deriving DecidableEq, Repr

/-- A time of day as it is written. -/
structure ClockTime where
  hour : Nat
  minute : Nat
  second : Nat
  fraction : List Char
  zone : Option Zone
  deriving DecidableEq, Repr

/-- A date with its time as it is written. -/
structure Timestamp where
  year : Nat
  month : Nat
  day : Nat
  time : Option ClockTime
  deriving DecidableEq, Repr

namespace Timestamp

/-- A number of `least` to `most` digits and what follows it. -/
def digits? (least most : Nat) (chars : List Char) :
    Option (Nat × List Char) :=
  let digits := (chars.take most).takeWhile Json.isDigit
  if digits.length < least then none
  else some (ofDigits 10 digits, chars.drop digits.length)

/-- What follows an expected character. -/
def expect? (char : Char) : List Char → Option (List Char)
  | [] => none
  | found :: rest => if found = char then some rest else none

/-- A space or a tab. -/
def isGap (char : Char) : Bool :=
  char == ' ' || char == '\t'

/-- What follows the mark between date and time. -/
def afterDate? : List Char → Option (List Char)
  | [] => none
  | char :: rest =>
      if char = 'T' ∨ char = 't' then some rest
      else if isGap char then some (rest.dropWhile isGap)
      else none

/-- The distance from universal time that ends a timestamp. -/
def zone? (chars : List Char) : Option (Option Zone) := do
  if chars.isEmpty then
    return none
  match chars.dropWhile isGap with
  | ['Z'] => return some .universal
  | sign :: rest =>
      if sign ≠ '+' ∧ sign ≠ '-' then
        none
      else
        let (hours, rest) ← digits? 1 2 rest
        let (minutes, rest) ←
          match rest with
          | ':' :: rest => digits? 2 2 rest
          | rest => some (0, rest)
        if rest.isEmpty then
          return some (.offset (sign == '-') hours minutes)
        else
          none
  | [] => none

/-- The time of day that ends a timestamp. -/
def clockTime? (chars : List Char) : Option ClockTime := do
  let (hour, rest) ← digits? 1 2 chars
  let (minute, rest) ← digits? 2 2 (← expect? ':' rest)
  let (second, rest) ← digits? 2 2 (← expect? ':' rest)
  let (fraction, rest) :=
    match rest with
    | '.' :: rest =>
        (rest.takeWhile Json.isDigit, rest.dropWhile Json.isDigit)
    | rest => ([], rest)
  return ⟨hour, minute, second, fraction, ← zone? rest⟩

/-- A timestamp; a line feed may follow it. -/
def ofChars? (chars : List Char) : Option Timestamp := do
  let chars :=
    if chars.getLast? = some '\n' then chars.dropLast else chars
  let (year, rest) ← digits? 4 4 chars
  let (month, rest) ← digits? 1 2 (← expect? '-' rest)
  let (day, rest) ← digits? 1 2 (← expect? '-' rest)
  if rest.isEmpty then
    return ⟨year, month, day, none⟩
  else
    return ⟨year, month, day, some (← clockTime? (← afterDate? rest))⟩

/-- An untagged scalar is a time if its date is written in full or a time of
day follows it. -/
def isImplicit (chars : List Char) : Bool :=
  match ofChars? chars with
  | none => false
  | some timestamp =>
      timestamp.time.isSome ||
        (chars.filter (· != '\n')).length == "YYYY-MM-DD".length

/-- The microseconds of a fraction of a second. -/
def microseconds (fraction : List Char) : Nat :=
  ofDigits 10 ((fraction ++ List.replicate 6 '0').take 6)

/-- The distance from universal time in seconds. -/
def zoneSeconds : Zone → Except CalendarFault Int
  | .universal => .ok 0
  | .offset negative hours minutes =>
      let magnitude : Int := hours * 3600 + minutes * 60
      let seconds := if negative then -magnitude else magnitude
      if 86400 ≤ magnitude then .error (.offset seconds) else .ok seconds

/-- The date or moment of a timestamp. -/
def toValue (timestamp : Timestamp) : Except CalendarFault Value := do
  match timestamp.time with
  | none =>
      return .date
        (← Date.ofNumbers timestamp.year timestamp.month timestamp.day)
  | some time =>
      let offset ←
        match time.zone with
        | none => pure none
        | some zone => some <$> zoneSeconds zone
      return .moment
        (← Moment.ofNumbers timestamp.year timestamp.month timestamp.day
          time.hour time.minute time.second (microseconds time.fraction)
          offset)

end Timestamp
end Yaml
end VestingContract
