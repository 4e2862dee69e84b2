import VestingContract.Calendar.Date

/-!
# Days by number

The day that lies a number of days after the first of January 1970.  Years
are taken to begin in March, so that a leap day is the last day of its year,
and four hundred years always have the same number of days.
-/

namespace VestingContract

/-- A day of any year, before the first one included. -/
structure CivilDay where
  year : Int
  month : Nat
  day : Nat
  deriving DecidableEq, Repr

/-- The number of days of four hundred years. -/
def daysPerEra : Nat := 146097

/-- The number of days from the first of March of the year zero to the first
of January 1970. -/
def epochDay : Int := 719468

/-- The day with a number. -/
def CivilDay.ofNumber (number : Int) : CivilDay :=
  let shifted := number + epochDay
  let era := Int.fdiv shifted daysPerEra
  let dayOfEra := (Int.fmod shifted daysPerEra).toNat
  let yearOfEra := (dayOfEra - dayOfEra / 1460 + dayOfEra / 36524 -
    dayOfEra / 146096) / 365
  let dayOfYear := dayOfEra -
    (365 * yearOfEra + yearOfEra / 4 - yearOfEra / 100)
  let monthFromMarch := (5 * dayOfYear + 2) / 153
  let day := dayOfYear - (153 * monthFromMarch + 2) / 5 + 1
  let month := if monthFromMarch < 10 then monthFromMarch + 3
    else monthFromMarch - 9
  let year := era * 400 + yearOfEra + (if month ≤ 2 then 1 else 0)
  ⟨year, month, day⟩

end VestingContract
