import Mathlib.Data.Int.Basic
import Mathlib.Data.Nat.Basic
import Mathlib.Algebra.Order.Floor.Div
import Mathlib.Tactic.IntervalCases
import VestingContract.Calendar.DayNumber

/-!
# Days of the calendar

The day with a number is the one that so many days of the calendar lie before.
The years of the numbers begin in March, four hundred years have as many days
as any other four hundred, and among these a day is told by its century, by
the four years of the century, by the year of these and by the day of the year.
Days that are later in the order of year, month and day have more days before
them, so the order of the numbers is the order of the calendar.
-/

namespace VestingContract

section Years

theorem isLeapYear_iff (year : Nat) :
    isLeapYear year = true ↔ 4 ∣ year ∧ (¬ 100 ∣ year ∨ 400 ∣ year) := by
  simp [isLeapYear, Nat.dvd_iff_mod_eq_zero]

/-- The number of days that a year has more than others. -/
def leapDays (year : Nat) : Nat :=
  if isLeapYear year then 1 else 0

theorem daysBeforeYear_succ {year : Nat} (positive : 0 < year) :
    daysBeforeYear (year + 1) =
      daysBeforeYear year + 365 + leapDays year := by
  obtain ⟨past, rfl⟩ := Nat.exists_eq_add_one.mpr positive
  have hundred : 400 ∣ past + 1 → 100 ∣ past + 1 := Dvd.dvd.trans (by decide)
  have four : 100 ∣ past + 1 → 4 ∣ past + 1 := Dvd.dvd.trans (by decide)
  have fewer : past / 100 ≤ past / 4 :=
    Nat.div_le_div_left (by decide) (by decide)
  -- A quotient grows where the divisor divides the next year.
  simp only [daysBeforeYear, Nat.add_sub_cancel, Nat.succ_div, leapDays,
    isLeapYear_iff]
  by_cases isEra : 400 ∣ past + 1
  · simp only [isEra, hundred isEra, four (hundred isEra), if_true, not_true,
      false_or, and_self]
    omega
  · by_cases isCentury : 100 ∣ past + 1
    · simp only [isEra, isCentury, four isCentury, if_true, if_false, not_true,
        false_or, and_false]
      omega
    · by_cases isFourth : 4 ∣ past + 1 <;>
        simp only [isEra, isCentury, isFourth, if_true, if_false, not_false_eq_true,
          true_or, and_self, false_and] <;>
        omega

theorem daysBeforeYear_mono {year later : Nat} (positive : 0 < year)
    (le : year ≤ later) : daysBeforeYear year ≤ daysBeforeYear later := by
  induction later, le using Nat.le_induction with
  | base => exact le_rfl
  | succ later le ih =>
      rw [daysBeforeYear_succ (by omega)]
      omega

end Years

section Months

variable (year : Nat)

theorem daysInMonth_february :
    daysInMonth year 2 = 28 + leapDays year := by
  rw [daysInMonth, if_pos rfl, leapDays]
  split <;> rfl

theorem daysBeforeMonth_succ {month : Nat} (positive : 0 < month) :
    daysBeforeMonth year (month + 1) =
      daysBeforeMonth year month + daysInMonth year month := by
  obtain ⟨earlier, rfl⟩ := Nat.exists_eq_add_one.mpr positive
  rw [daysBeforeMonth, Nat.add_sub_cancel, List.range_succ,
    List.foldl_append]
  rfl

theorem daysBeforeMonth_mono {month later : Nat} (positive : 0 < month)
    (le : month ≤ later) :
    daysBeforeMonth year month ≤ daysBeforeMonth year later := by
  induction later, le using Nat.le_induction with
  | base => exact le_rfl
  | succ later le ih =>
      rw [daysBeforeMonth_succ year (by omega)]
      omega

/-- From March on the days of the months before are told by one line. -/
theorem daysBeforeMonth_fromMarch {later : Nat} (le : later ≤ 10) :
    daysBeforeMonth year (later + 3) =
      (153 * later + 2) / 5 + 59 + leapDays year := by
  induction later with
  | zero =>
      have february : daysBeforeMonth year 2 = 31 := rfl
      rw [daysBeforeMonth_succ year (by decide), daysInMonth_february,
        february]
      omega
  | succ later ih =>
      have length : daysInMonth year (later + 3) =
          (153 * (later + 1) + 2) / 5 - (153 * later + 2) / 5 := by
        have less : later < 10 := by omega
        clear ih le
        interval_cases later <;> rfl
      rw [Nat.add_right_comm, daysBeforeMonth_succ year (Nat.succ_pos _),
        length, ih (by omega)]
      omega

theorem daysBeforeMonth_thirteen :
    daysBeforeMonth year 13 = 365 + leapDays year := by
  rw [daysBeforeMonth_fromMarch year (le_refl 10)]

end Months

namespace Date

/-- A day that the calendar has. -/
structure IsInCalendar (date : Date) : Prop where
  year : 0 < date.year
  month : 0 < date.month ∧ date.month ≤ 12
  day : 0 < date.day ∧ date.day ≤ daysInMonth date.year date.month

/-- One day is before another one by its year, its month or its day. -/
def Before (date later : Date) : Prop :=
  date.year < later.year ∨ date.year = later.year ∧
    (date.month < later.month ∨
      date.month = later.month ∧ date.day < later.day)

variable {date later : Date}

theorem IsInCalendar.ordinal_le (inCalendar : date.IsInCalendar) :
    date.ordinal ≤ daysBeforeYear date.year +
      daysBeforeMonth date.year (date.month + 1) := by
  have next := daysBeforeMonth_succ date.year inCalendar.month.1
  have day := inCalendar.day.2
  rw [ordinal]
  omega

/-- A day that is before another one has fewer days before it. -/
theorem IsInCalendar.ordinal_lt (inCalendar : date.IsInCalendar)
    (laterInCalendar : later.IsInCalendar) (before : date.Before later) :
    date.ordinal < later.ordinal := by
  have atMost := inCalendar.ordinal_le
  have day := laterInCalendar.day.1
  have laterOrdinal : later.ordinal = daysBeforeYear later.year +
      daysBeforeMonth later.year later.month + later.day := rfl
  rcases before with year | ⟨sameYear, month | ⟨sameMonth, dayBefore⟩⟩
  · have months : daysBeforeMonth date.year (date.month + 1) ≤
        daysBeforeMonth date.year 13 :=
      daysBeforeMonth_mono date.year (Nat.succ_pos _)
        (Nat.succ_le_succ inCalendar.month.2)
    have years : daysBeforeYear (date.year + 1) ≤ daysBeforeYear later.year :=
      daysBeforeYear_mono (Nat.succ_pos date.year) year
    rw [daysBeforeMonth_thirteen] at months
    rw [daysBeforeYear_succ inCalendar.year] at years
    omega
  · have months : daysBeforeMonth date.year (date.month + 1) ≤
        daysBeforeMonth date.year later.month :=
      daysBeforeMonth_mono date.year (Nat.succ_pos _) month
    rw [sameYear] at atMost months
    omega
  · rw [ordinal, laterOrdinal, sameYear, sameMonth]
    omega

end Date

/-- A day of four hundred years by its century, the four years of the century,
the year of these and the day of the year.  The last year of four has one day
more, unless it ends a century that is not the last one. -/
structure EraDay where
  century : Nat
  cycle : Nat
  year : Nat
  day : Nat
  century_lt : century < 4
  cycle_lt : cycle < 25
  year_lt : year < 4
  day_lt : day < 365 ∨ day = 365 ∧ year = 3 ∧ (cycle < 24 ∨ century = 3)

namespace EraDay

/-- The number of a day among those of four hundred years. -/
def number (parts : EraDay) : Nat :=
  36524 * parts.century + 1461 * parts.cycle + 365 * parts.year + parts.day

/-- The number of the year of a day among four hundred years. -/
def yearOfEra (parts : EraDay) : Nat :=
  100 * parts.century + 4 * parts.cycle + parts.year

theorem exists_number_eq {dayOfEra : Nat} (less : dayOfEra < daysPerEra) :
    ∃ parts : EraDay, parts.number = dayOfEra := by
  simp only [daysPerEra] at less
  obtain ⟨century, later, centuryLt, rfl, laterLt⟩ : ∃ century later,
      century < 4 ∧ dayOfEra = 36524 * century + later ∧
        (later < 36524 ∨ later = 36524 ∧ century = 3) :=
    ⟨min (dayOfEra / 36524) 3,
      dayOfEra - 36524 * min (dayOfEra / 36524) 3,
      by omega, by omega, by omega⟩
  obtain ⟨year, day, yearLt, rest, dayLt⟩ : ∃ year day,
      year < 4 ∧ later % 1461 = 365 * year + day ∧
        (day < 365 ∨ day = 365 ∧ year = 3) :=
    ⟨min (later % 1461 / 365) 3,
      later % 1461 - 365 * min (later % 1461 / 365) 3,
      by omega, by omega, by omega⟩
  exact ⟨⟨century, later / 1461, year, day, centuryLt, by omega, yearLt,
    by omega⟩, by simp only [number]; omega⟩

variable (parts : EraDay)

/-- Leap days are taken off before the years are counted. -/
theorem yearOfEra_eq :
    (parts.number - parts.number / 1460 + parts.number / 36524 -
      parts.number / 146096) / 365 = parts.yearOfEra := by
  obtain ⟨century, cycle, year, day, centuryLt, cycleLt, yearLt, dayLt⟩ :=
    parts
  simp only [number, yearOfEra]
  generalize isNumber :
    36524 * century + 1461 * cycle + 365 * year + day = number
  -- A day late in the last year of four counts as one of the next four.
  have cycles : number / 1460 = 25 * century + cycle ∧
        24 * century + cycle + 365 * year + day < 1460 ∨
      number / 1460 = 25 * century + cycle + 1 ∧
        1460 ≤ 24 * century + cycle + 365 * year + day := by omega
  -- The last day of all counts as one of a fifth century.
  have centuries : number / 36524 = century ∧ number / 146096 = 0 ∨
      number / 36524 = 4 ∧ number / 146096 = 1 ∧ century = 3 := by omega
  omega

theorem dayOfYear_eq :
    parts.number - (365 * parts.yearOfEra + parts.yearOfEra / 4 -
      parts.yearOfEra / 100) = parts.day := by
  have century := parts.century_lt
  have cycle := parts.cycle_lt
  have year := parts.year_lt
  simp only [number, yearOfEra]
  omega

theorem daysBeforeYear_yearOfEra (era : Nat) :
    daysBeforeYear (era * 400 + parts.yearOfEra + 1) + parts.day =
      daysPerEra * era + parts.number := by
  have century := parts.century_lt
  have cycle := parts.cycle_lt
  have year := parts.year_lt
  simp only [daysBeforeYear, number, yearOfEra, daysPerEra,
    Nat.add_sub_cancel]
  omega

/-- The year of the last day of February is a leap year if this day is the
twenty-ninth. -/
theorem leapDays_of_day (isLast : parts.day = 365) (era : Nat) :
    leapDays (era * 400 + parts.yearOfEra + 1) = 1 := by
  have leap : isLeapYear (era * 400 + parts.yearOfEra + 1) = true := by
    have century := parts.century_lt
    have cycle := parts.cycle_lt
    have day := parts.day_lt
    rw [isLeapYear_iff]
    simp only [yearOfEra]
    omega
  rw [leapDays, if_pos leap]

end EraDay

namespace CivilDay

/-- The first day that has a number. -/
def epoch : Date := ⟨1970, 1, 1⟩

/-- A day by the year that begins in March and by its number in this year. -/
def fromMarch (year dayOfYear : Nat) : Date :=
  let later := (5 * dayOfYear + 2) / 153
  let month := if later < 10 then later + 3 else later - 9
  ⟨year + (if month ≤ 2 then 1 else 0), month,
    dayOfYear - (153 * later + 2) / 5 + 1⟩

section March

variable {year dayOfYear : Nat}

theorem daysInMonth_fromMarch {later : Nat} (less : later < 11) :
    daysInMonth year (if later < 10 then later + 3 else later - 9) =
      (153 * (later + 1) + 2) / 5 - (153 * later + 2) / 5 := by
  interval_cases later <;> rfl

theorem fromMarch_isInCalendar (positive : 0 < year)
    (less : dayOfYear < 365 ∨ dayOfYear = 365 ∧ leapDays (year + 1) = 1) :
    (fromMarch year dayOfYear).IsInCalendar := by
  simp only [fromMarch]
  generalize isLater : (5 * dayOfYear + 2) / 153 = later
  have least : (153 * later + 2) / 5 ≤ dayOfYear := by omega
  have greatest : dayOfYear < (153 * (later + 1) + 2) / 5 := by omega
  constructor
  case year => exact Nat.add_pos_left positive _
  case month =>
    have few : later < 12 := by omega
    dsimp only
    split <;> omega
  case day =>
    refine ⟨Nat.succ_pos _, ?_⟩
    rcases Nat.lt_or_ge later 11 with early | isFebruary
    · dsimp only
      rw [daysInMonth_fromMarch early]
      omega
    · obtain rfl : later = 11 := by omega
      change dayOfYear - 337 + 1 ≤ daysInMonth (year + 1) 2
      rw [daysInMonth_february]
      omega

/-- The days before the first of March of a year, and the day of the year. -/
theorem ordinal_fromMarch (positive : 0 < year) (le : dayOfYear ≤ 365) :
    (fromMarch year dayOfYear).ordinal + 305 =
      daysBeforeYear (year + 1) + dayOfYear := by
  simp only [fromMarch, Date.ordinal]
  generalize isLater : (5 * dayOfYear + 2) / 153 = later
  have least : (153 * later + 2) / 5 ≤ dayOfYear := by omega
  have few : later < 12 := by omega
  rcases Nat.lt_or_ge later 10 with inYear | inNext
  · have noNext : ¬ later + 3 ≤ 2 := by omega
    simp only [if_pos inYear, if_neg noNext, Nat.add_zero]
    rw [daysBeforeMonth_fromMarch year (le_of_lt inYear),
      daysBeforeYear_succ positive]
    omega
  · have isNext : later - 9 ≤ 2 := by omega
    have months : daysBeforeMonth (year + 1) (later - 9) + 306 =
        (153 * later + 2) / 5 := by
      interval_cases later <;> rfl
    rw [if_neg (Nat.not_lt.mpr inNext), if_pos isNext]
    omega

end March

/-- The day with a number is a day of the calendar, and the number tells how
many days it lies behind the first of January 1970. -/
theorem exists_date_ofNumber (number : Nat) :
    ∃ date : Date, date.IsInCalendar ∧
      ofNumber number = ⟨date.year, date.month, date.day⟩ ∧
      date.ordinal = epoch.ordinal + number := by
  have inEra : (number + 719468) % daysPerEra < daysPerEra :=
    Nat.mod_lt _ (by decide)
  obtain ⟨parts, isDay⟩ := EraDay.exists_number_eq inEra
  have era : 4 ≤ (number + 719468) / daysPerEra := by
    simp only [daysPerEra]
    omega
  have positive : 0 < (number + 719468) / daysPerEra * 400 +
      parts.yearOfEra := by omega
  have dayLt := parts.day_lt
  refine ⟨fromMarch ((number + 719468) / daysPerEra * 400 + parts.yearOfEra)
    parts.day, fromMarch_isInCalendar positive ?_, ?_, ?_⟩
  · rcases dayLt with less | ⟨isLast, -⟩
    · exact .inl less
    · exact .inr ⟨isLast, parts.leapDays_of_day isLast _⟩
  · have shifted : (number : Int) + epochDay =
        ((number + 719468 : Nat) : Int) := by
      rw [Nat.cast_add]
      rfl
    simp only [ofNumber, shifted, ← Int.ofNat_fdiv, ← Int.ofNat_fmod,
      Int.toNat_natCast, ← isDay, parts.yearOfEra_eq, parts.dayOfYear_eq,
      fromMarch]
    push_cast
    rfl
  · have first := parts.daysBeforeYear_yearOfEra
      ((number + 719468) / daysPerEra)
    have march := @ordinal_fromMarch _ parts.day positive (by omega)
    have isEpoch : epoch.ordinal = 719163 := rfl
    have division := Nat.div_add_mod (number + 719468) daysPerEra
    rw [isDay] at first
    omega

end CivilDay
end VestingContract
