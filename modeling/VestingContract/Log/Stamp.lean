import VestingContract.Calendar.DayNumber
import VestingContract.Value.Basic

/-!
# Time stamps

The time of a record in universal time to the millisecond.  Seconds since 1970
are rounded to microseconds, a half to the even one, and the last three digits
are cut off.
-/

namespace VestingContract

/-- Why a number of seconds has no stamp. -/
inductive StampFault where
  | notANumber
  | outOfRange
  | tooLarge
  | year (year : Int)
  | notAnInteger (kind : Text)
  deriving DecidableEq, Repr

def StampFault.message : StampFault → Text
  | notANumber => "Invalid value NaN (not a number)"
  | outOfRange => "timestamp out of range for platform time_t"
  | tooLarge => "[Errno 75] Value too large for defined data type"
  | year number => "year " ++ Text.ofInt number ++ " is out of range"
  | notAnInteger kind =>
      "'" ++ kind ++ "' object cannot be interpreted as an integer"

/-- The microseconds of a number of seconds.  The part behind the point is
multiplied as a double before it is rounded. -/
def microsecondsOf : Value → Except StampFault Int
  | .int whole => .ok (whole * 1000000)
  | .bool truth => .ok (if truth then 1000000 else 0)
  | .float .notANumber => .error .notANumber
  | .float (.infinite _) => .error .outOfRange
  | .float number =>
      let whole := (number.truncated?).getD 0
      let part := number.fraction.mul (.ofInt 1000000)
      .ok (whole * 1000000 + (part.rounded?).getD 0)
  | value => .error (.notAnInteger value.qualifiedKind)

/-- The calendar year of a day, which has to be a year of dates.  Years are
counted from 1900 in a word of 32 bits. -/
def yearOf (day : CivilDay) : Except StampFault Nat :=
  if !fitsSigned 32 (day.year - 1900) then
    .error .tooLarge
  else
    let year := Int.bmod day.year (raise 2 32)
    if 1 ≤ year ∧ year ≤ 9999 then .ok year.toNat else .error (.year year)

/-- The stamp of microseconds since 1970. -/
def stampOfMicroseconds (microseconds : Int) : Except StampFault Text := do
  let seconds := Int.fdiv microseconds 1000000
  let milliseconds := (Int.fmod microseconds 1000000).toNat / 1000
  if !fitsSigned 64 seconds then
    throw .outOfRange
  let day := CivilDay.ofNumber (Int.fdiv seconds 86400)
  let second := (Int.fmod seconds 86400).toNat
  let year ← yearOf day
  return Text.ofNat year ++ "-" ++ Moment.twoDigits day.month ++ "-" ++
    Moment.twoDigits day.day ++ "T" ++
    Moment.twoDigits (second / 3600) ++ ":" ++
    Moment.twoDigits (second / 60 % 60) ++ ":" ++
    Moment.twoDigits (second % 60) ++ "." ++
    Text.padLeft 3 (.scalar '0') (Text.ofNat milliseconds) ++ "Z"

/-- The stamp of a number of seconds since 1970. -/
def stamp (seconds : Value) : Except StampFault Text := do
  stampOfMicroseconds (← microsecondsOf seconds)

end VestingContract
