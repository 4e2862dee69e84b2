import VestingContract.Text.CodePoint

/-!
# Dates and moments

Days and times of day of the proleptic Gregorian calendar from the year 1 to
the year 9999, with an optional distance from universal time.
-/

namespace VestingContract

/-- Every fourth year is a leap year, of the centuries only every fourth. -/
def isLeapYear (year : Nat) : Bool :=
  year % 4 == 0 && (year % 100 != 0 || year % 400 == 0)

def daysInMonth (year month : Nat) : Nat :=
  if month = 2 then
    if isLeapYear year then 29 else 28
  else if month = 4 ∨ month = 6 ∨ month = 9 ∨ month = 11 then
    30
  else
    31

/-- The number of days of a year before a month. -/
def daysBeforeMonth (year month : Nat) : Nat :=
  (List.range (month - 1)).foldl (fun days earlier =>
    days + daysInMonth year (earlier + 1)) 0

/-- The number of days before a year, counted from the year 1. -/
def daysBeforeYear (year : Nat) : Nat :=
  let past := year - 1
  past * 365 + past / 4 - past / 100 + past / 400

/-- Why numbers denote no date, time or distance from universal time. -/
inductive CalendarFault where
  | year (year : Int)
  | month
  | day
  | hour
  | minute
  | second
  | offset (seconds : Int)
  deriving DecidableEq, Repr

/-- A span of seconds as its days and the seconds of the last day. -/
def spanText (seconds : Int) : Text :=
  let days := Int.fdiv seconds 86400
  let rest := Int.fmod seconds 86400
  let dayPart : List Text :=
    if days = 0 then [] else ["days=" ++ Text.ofInt days]
  let secondPart : List Text :=
    if rest = 0 then [] else ["seconds=" ++ Text.ofInt rest]
  let parts := dayPart ++ secondPart
  "datetime.timedelta(" ++
    (if parts.isEmpty then "0" else Text.join ", " parts : Text) ++ ")"

def CalendarFault.message : CalendarFault → Text
  | year number => "year " ++ Text.ofInt number ++ " is out of range"
  | month => "month must be in 1..12"
  | day => "day is out of range for month"
  | hour => "hour must be in 0..23"
  | minute => "minute must be in 0..59"
  | second => "second must be in 0..59"
  | offset seconds =>
      "offset must be a timedelta strictly between " ++
        "-timedelta(hours=24) and timedelta(hours=24), not " ++
        spanText seconds ++ "."

/-- A day of the calendar. -/
structure Date where
  year : Nat
  month : Nat
  day : Nat
  deriving DecidableEq, Repr

/-- A day and a time of day; `offset` is the distance from universal time in
seconds, where it is known. -/
structure Moment where
  date : Date
  hour : Nat
  minute : Nat
  second : Nat
  microsecond : Nat
  offset : Option Int
  deriving DecidableEq, Repr

namespace Date

/-- The day with the given numbers, the year being checked first. -/
def ofNumbers (year month day : Nat) : Except CalendarFault Date :=
  if year < 1 ∨ 9999 < year then
    .error (.year year)
  else if month < 1 ∨ 12 < month then
    .error .month
  else if day < 1 ∨ daysInMonth year month < day then
    .error .day
  else
    .ok ⟨year, month, day⟩

/-- The position of a day in the calendar, the first day being 1. -/
def ordinal (date : Date) : Nat :=
  daysBeforeYear date.year + daysBeforeMonth date.year date.month + date.day

/-- Year, month and day with hyphens between them. -/
def toText (date : Date) : Text :=
  Text.padLeft 4 (.scalar '0') (Text.ofNat date.year) ++ "-" ++
    Text.padLeft 2 (.scalar '0') (Text.ofNat date.month) ++ "-" ++
    Text.padLeft 2 (.scalar '0') (Text.ofNat date.day)

end Date

namespace Moment

/-- Two digits of a time. -/
def twoDigits (number : Nat) : Text :=
  Text.padLeft 2 (.scalar '0') (Text.ofNat number)

/-- The distance from universal time with its sign. -/
def offsetText (seconds : Int) : Text :=
  let magnitude := seconds.natAbs
  (if seconds < 0 then "-" else "+" : Text) ++ twoDigits (magnitude / 3600) ++
    ":" ++ twoDigits (magnitude / 60 % 60)

/-- The date, the time and the distance from universal time; microseconds
are left out where there are none. -/
def toText (moment : Moment) : Text :=
  moment.date.toText ++ " " ++ twoDigits moment.hour ++ ":" ++
    twoDigits moment.minute ++ ":" ++ twoDigits moment.second ++
    (if moment.microsecond = 0 then [] else
      "." ++ Text.padLeft 6 (.scalar '0')
        (Text.ofNat moment.microsecond) : Text) ++
    (match moment.offset with
      | none => []
      | some seconds => offsetText seconds)

/-- The moment with the given numbers; the day is checked before the time. -/
def ofNumbers (year month day hour minute second microsecond : Nat)
    (offset : Option Int) : Except CalendarFault Moment := do
  let date ← Date.ofNumbers year month day
  if 23 < hour then
    throw .hour
  if 59 < minute then
    throw .minute
  if 59 < second then
    throw .second
  return ⟨date, hour, minute, second, microsecond, offset⟩

/-- Microseconds of universal time since the beginning of the calendar,
where the distance from universal time is known, else of local time. -/
def instant (moment : Moment) : Int :=
  let seconds : Int := moment.date.ordinal * 86400 + moment.hour * 3600 +
    moment.minute * 60 + moment.second
  (seconds - moment.offset.getD 0) * 1000000 + moment.microsecond

/-- Two moments with known distances from universal time are the same if they
are one instant, two without if they read alike. -/
def same (left right : Moment) : Bool :=
  left.offset.isSome == right.offset.isSome && left.instant == right.instant

end Moment
end VestingContract
