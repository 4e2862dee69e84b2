import Mathlib.Data.List.Forall2
import VestingContract.Proofs.Calendar.Days
import VestingContract.Proofs.Number.FixedWidth
import VestingContract.Yaml.Timestamp

/-!
# Moments in text

A moment of universal time to the millisecond is written with all its numbers
at a fixed width, from the year down.  What is written is read back as the
moment, and it stands behind whatever is written of an earlier one.
-/

namespace VestingContract

namespace Moment

/-- A moment of universal time to the millisecond, in a year of at most four
digits. -/
structure IsUniversal (moment : Moment) : Prop where
  date : moment.date.IsInCalendar
  year : moment.date.year < 10000
  hour : moment.hour < 24
  minute : moment.minute < 60
  second : moment.second < 60
  microsecond : moment.microsecond < 1000000
  milliseconds : moment.microsecond % 1000 = 0
  offset : moment.offset = some 0

/-- One moment is before another one by the first of their numbers that
differ. -/
def Before (moment later : Moment) : Prop :=
  moment.date.year < later.date.year ∨ moment.date.year = later.date.year ∧
    (moment.date.month < later.date.month ∨
        moment.date.month = later.date.month ∧
      (moment.date.day < later.date.day ∨ moment.date.day = later.date.day ∧
        (moment.hour < later.hour ∨ moment.hour = later.hour ∧
          (moment.minute < later.minute ∨ moment.minute = later.minute ∧
            (moment.second < later.second ∨ moment.second = later.second ∧
              moment.microsecond < later.microsecond)))))

section Order

variable {moment later : Moment}

theorem IsUniversal.instant_eq (universal : moment.IsUniversal) :
    moment.instant = (((moment.date.ordinal * 24 + moment.hour) * 60 +
      moment.minute) * 60 + moment.second) * 1000000 + moment.microsecond := by
  rw [instant, universal.offset, Option.getD_some]
  omega

/-- What is before is earlier. -/
theorem IsUniversal.instant_lt (universal : moment.IsUniversal)
    (laterUniversal : later.IsUniversal) (before : moment.Before later) :
    moment.instant < later.instant := by
  have hour := universal.hour
  have minute := universal.minute
  have second := universal.second
  have microsecond := universal.microsecond
  rw [universal.instant_eq, laterUniversal.instant_eq]
  rw [Before] at before
  by_cases date : moment.date.Before later.date
  · have days := universal.date.ordinal_lt laterUniversal.date date
    omega
  · rw [Date.Before] at date
    have sameYear : moment.date.year = later.date.year := by omega
    have sameMonth : moment.date.month = later.date.month := by omega
    have sameDay : moment.date.day = later.date.day := by omega
    have sameOrdinal : moment.date.ordinal = later.date.ordinal := by
      rw [Date.ordinal, sameYear, sameMonth, sameDay, Date.ordinal]
    omega

theorem IsUniversal.eq_or_before (universal : moment.IsUniversal)
    (laterUniversal : later.IsUniversal) :
    moment = later ∨ moment.Before later ∨ later.Before moment := by
  obtain ⟨⟨year, month, day⟩, hour, minute, second, microsecond, offset⟩ :=
    moment
  obtain ⟨⟨year', month', day'⟩, hour', minute', second', microsecond',
    offset'⟩ := later
  have offsets : offset = offset' :=
    universal.offset.trans laterUniversal.offset.symm
  simp only [Before, Moment.mk.injEq, Date.mk.injEq, offsets,
    and_true]
  omega

end Order

section Writing

/-- A number of a fixed width, a mark behind it, and the rest. -/
def marked (width number : Nat) (mark : Char) (rest : List Char) : List Char :=
  fixedDigits width number ++ mark :: rest

/-- Date and time of day to the millisecond, with the mark of universal
time. -/
def stampChars (moment : Moment) : List Char :=
  marked 4 moment.date.year '-' <| marked 2 moment.date.month '-' <|
    marked 2 moment.date.day 'T' <| marked 2 moment.hour ':' <|
      marked 2 moment.minute ':' <| marked 2 moment.second '.' <|
        marked 3 (moment.microsecond / 1000) 'Z' []

/-- A character that stands where a form has a mark: any digit for a zero, and
the mark itself for every other one. -/
def Fits (mark char : Char) : Prop :=
  if mark = '0' then Json.isDigit char = true else char = mark

/-- Four digits of a year, the other numbers with two digits, and three digits
behind the point. -/
def HasStampForm (chars : List Char) : Prop :=
  List.Forall₂ Fits "0000-00-00T00:00:00.000Z".toList chars

variable {width number : Nat} {mark : Char} {rest : List Char}

theorem forall₂_fits_marked {form : List Char} (isMark : mark ≠ '0')
    (fits : List.Forall₂ Fits form rest) :
    List.Forall₂ Fits (List.replicate width '0' ++ mark :: form)
      (marked width number mark rest) := by
  apply List.rel_append
  · rw [List.forall₂_iff_get]
    refine ⟨by simp [length_fixedDigits], fun index inForm inDigits => ?_⟩
    simp only [List.get_eq_getElem, List.getElem_replicate, Fits, if_true]
    exact isDigit_of_mem_fixedDigits width number _ (List.getElem_mem _)
  · refine .cons ?_ fits
    rw [Fits, if_neg isMark]

theorem hasStampForm_stampChars (moment : Moment) :
    HasStampForm moment.stampChars := by
  have form : "0000-00-00T00:00:00.000Z".toList =
      List.replicate 4 '0' ++ '-' :: (List.replicate 2 '0' ++
        '-' :: (List.replicate 2 '0' ++ 'T' :: (List.replicate 2 '0' ++
          ':' :: (List.replicate 2 '0' ++ ':' :: (List.replicate 2 '0' ++
            '.' :: (List.replicate 3 '0' ++ ['Z'])))))) := by
    decide
  rw [HasStampForm, form]
  iterate 7
    refine forall₂_fits_marked (by decide) ?_
  exact .nil

theorem HasStampForm.length_eq {chars : List Char}
    (form : HasStampForm chars) : chars.length = 24 :=
  (List.Forall₂.length_eq form).symm

/-- The first number that is less decides. -/
theorem isBefore_marked {later : Nat} {laterRest : List Char} {Behind : Prop}
    (bounded : later < 10 ^ width)
    (less : number < later ∨ number = later ∧ Behind)
    (before : Behind → IsBefore rest laterRest) :
    IsBefore (marked width number mark rest)
      (marked width later mark laterRest) := by
  rcases less with less | ⟨rfl, behind⟩
  · apply (isBefore_fixedDigits less bounded).append
    rw [length_fixedDigits, length_fixedDigits]
  · exact IsBefore.behind (.cons (before behind)) _

variable {moment later : Moment}

/-- The day and the month of a date have two digits. -/
theorem IsUniversal.two_digits (universal : moment.IsUniversal) :
    moment.date.month < 100 ∧ moment.date.day < 100 := by
  have month := universal.date.month.2
  have day := universal.date.day.2
  have days : daysInMonth moment.date.year moment.date.month ≤ 31 := by
    rw [daysInMonth]
    split_ifs <;> decide
  omega

theorem IsUniversal.isBefore_stampChars (universal : moment.IsUniversal)
    (laterUniversal : later.IsUniversal) (before : moment.Before later) :
    IsBefore moment.stampChars later.stampChars := by
  have digits := laterUniversal.two_digits
  have hour := laterUniversal.hour
  have minute := laterUniversal.minute
  have second := laterUniversal.second
  have microsecond := laterUniversal.microsecond
  have milliseconds := universal.milliseconds
  have laterMilliseconds := laterUniversal.milliseconds
  refine isBefore_marked laterUniversal.year before fun before => ?_
  refine isBefore_marked digits.1 before fun before => ?_
  refine isBefore_marked digits.2 before fun before => ?_
  refine isBefore_marked (by omega) before fun before => ?_
  refine isBefore_marked (by omega) before fun before => ?_
  refine isBefore_marked (by omega) before fun before => ?_
  exact isBefore_marked (by omega) (.inl (by omega)) False.elim

end Writing

section Reading

open Yaml

variable {least width number : Nat} {rest : List Char}

/-- A number is read up to what follows its width. -/
theorem digits?_fixedDigits (enough : least ≤ width)
    (less : number < 10 ^ width) (rest : List Char) :
    Timestamp.digits? least width (fixedDigits width number ++ rest) =
      some (number, rest) := by
  have taken : (fixedDigits width number ++ rest).take width =
      fixedDigits width number :=
    List.take_left' (length_fixedDigits width number)
  have areDigits : (fixedDigits width number).takeWhile Json.isDigit =
      fixedDigits width number :=
    List.takeWhile_eq_self_iff.mpr (isDigit_of_mem_fixedDigits width number)
  simp only [Timestamp.digits?, taken, areDigits]
  rw [if_neg (by rw [length_fixedDigits]; exact Nat.not_lt.mpr enough),
    ofDigits_fixedDigits less, List.drop_left]

/-- One or two digits are asked for where there are two. -/
theorem digits?_two (least : Nat) (enough : least ≤ 2) (less : number < 100)
    (mark : Char) (rest : List Char) :
    Timestamp.digits? least 2 (marked 2 number mark rest) =
      some (number, mark :: rest) :=
  digits?_fixedDigits enough less (mark :: rest)

theorem expect?_cons (mark : Char) (rest : List Char) :
    Timestamp.expect? mark (mark :: rest) = some rest :=
  if_pos rfl

/-- Three digits behind the point are thousands of microseconds. -/
theorem microseconds_fixedDigits (less : number < 1000) :
    Timestamp.microseconds (fixedDigits 3 number) = number * 1000 := by
  have six : (fixedDigits 3 number ++ List.replicate 6 '0').take 6 =
      fixedDigits 3 number ++ ['0'] ++ ['0'] ++ ['0'] := by
    simp [List.take_append, length_fixedDigits]
  have zero : (digitValue? '0').getD 0 = 0 := by decide
  have digits : ofDigits 10 (fixedDigits 3 number) = number :=
    ofDigits_fixedDigits less
  simp only [Timestamp.microseconds, six, ofDigits_append, zero, digits]
  omega

theorem clockTime?_marked {hour minute second : Nat} (hours : hour < 100)
    (minutes : minute < 100) (seconds : second < 100) :
    Timestamp.clockTime? (marked 2 hour ':' <| marked 2 minute ':' <|
        marked 2 second '.' <| marked 3 number 'Z' []) =
      some ⟨hour, minute, second, fixedDigits 3 number, some .universal⟩ := by
  have digits := isDigit_of_mem_fixedDigits 3 number
  have noDigit : Json.isDigit 'Z' = false := by decide
  have taken : (marked 3 number 'Z' []).takeWhile Json.isDigit =
      fixedDigits 3 number := by
    simp [marked, List.takeWhile_append_of_pos digits, noDigit]
  have left : (marked 3 number 'Z' []).dropWhile Json.isDigit = ['Z'] := by
    simp [marked, List.dropWhile_append_of_pos digits, noDigit]
  have universal : Timestamp.zone? ['Z'] = some (some .universal) := by decide
  simp only [Timestamp.clockTime?, digits?_two 1 (by decide) hours,
    digits?_two 2 (by decide) minutes, digits?_two 2 (by decide) seconds,
    expect?_cons, Option.bind_eq_bind, Option.bind_some, taken, left,
    universal]
  rfl

/-- Characters are read as a moment. -/
def IsRead (chars : List Char) (moment : Moment) : Prop :=
  ∃ timestamp, Timestamp.ofChars? chars = some timestamp ∧
    timestamp.toValue = .ok (.moment moment)

variable {moment : Moment}

theorem IsUniversal.ofNumbers_eq (universal : moment.IsUniversal) :
    ofNumbers moment.date.year moment.date.month moment.date.day moment.hour
      moment.minute moment.second moment.microsecond (some 0) = .ok moment := by
  have date := universal.date
  have inCalendar : Date.ofNumbers moment.date.year moment.date.month
      moment.date.day = .ok moment.date := by
    have year := date.year
    have month := date.month
    have day := date.day
    have fourDigits := universal.year
    rw [Date.ofNumbers, if_neg (by omega), if_neg (by omega),
      if_neg (by omega)]
  have hour : ¬ 23 < moment.hour :=
    Nat.not_lt.mpr (Nat.le_of_lt_succ universal.hour)
  have minute : ¬ 59 < moment.minute :=
    Nat.not_lt.mpr (Nat.le_of_lt_succ universal.minute)
  have second : ¬ 59 < moment.second :=
    Nat.not_lt.mpr (Nat.le_of_lt_succ universal.second)
  simp only [ofNumbers, inCalendar, hour, minute, second, if_false,
    ← universal.offset]
  rfl

/-- What is written of a moment is read back as the moment. -/
theorem IsUniversal.isRead_stampChars (universal : moment.IsUniversal) :
    IsRead moment.stampChars moment := by
  have digits := universal.two_digits
  have hour := universal.hour
  have minute := universal.minute
  have second := universal.second
  have microsecond := universal.microsecond
  have milliseconds := universal.milliseconds
  refine ⟨⟨moment.date.year, moment.date.month, moment.date.day,
    some ⟨moment.hour, moment.minute, moment.second,
      fixedDigits 3 (moment.microsecond / 1000), some .universal⟩⟩, ?_, ?_⟩
  · have lastChar : moment.stampChars.getLast? ≠ some '\n' := by
      simp [stampChars, marked, List.getLast?_append, List.getLast?_cons]
    have year (rest : List Char) : Timestamp.digits? 4 4
        (marked 4 moment.date.year '-' rest) =
          some (moment.date.year, '-' :: rest) :=
      digits?_fixedDigits (le_refl 4) universal.year _
    rw [Timestamp.ofChars?, if_neg lastChar]
    simp only [stampChars, year, digits?_two 1 (by decide) digits.1,
      digits?_two 1 (by decide) digits.2, expect?_cons, Option.bind_eq_bind,
      Option.bind_some, List.isEmpty_cons, Bool.false_eq_true, if_false,
      Timestamp.afterDate?, true_or, if_true,
      clockTime?_marked (by omega : moment.hour < 100)
        (by omega : moment.minute < 100) (by omega : moment.second < 100)]
    rfl
  · have microseconds : Timestamp.microseconds
        (fixedDigits 3 (moment.microsecond / 1000)) = moment.microsecond := by
      rw [microseconds_fixedDigits (by omega)]
      omega
    simp only [Timestamp.toValue, Timestamp.zoneSeconds, microseconds]
    change (ofNumbers _ _ _ _ _ _ _ (some 0) >>= _) = _
    rw [universal.ofNumbers_eq]
    rfl

end Reading
end Moment
end VestingContract
