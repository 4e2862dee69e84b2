import VestingContract.Log.Stamp
import VestingContract.Proofs.Calendar.Moments
import VestingContract.Proofs.Number.Exactness
import VestingContract.Proofs.Number.Nearest

/-!
# Stamps of times

Seconds since the start of 1970 are rounded to microseconds, and whatever lies
before the year 10000 then is a day of the calendar and a time of day, of which
the stamp is written.  The stamp is read back as the microseconds cut to
milliseconds.  Greater numbers are never rounded to smaller ones, later moments
are never written in front of earlier ones, and so the stamps stand in the
order of the times.
-/

namespace VestingContract

open Moment

/-- The first moment of a year. -/
def startOfYear (year : Nat) : Moment :=
  ⟨⟨year, 1, 1⟩, 0, 0, 0, 0, some 0⟩

section Writing

theorem ordinal_epoch : CivilDay.epoch.ordinal = 719163 := by decide

theorem instant_startOfYear_1970 :
    (startOfYear 1970).instant = 719163 * 86400 * 1000000 := by decide

theorem instant_startOfYear_10000 :
    (startOfYear 10000).instant = 3652060 * 86400 * 1000000 := by decide

/-- The days from the start of 1970 to the start of the year 10000 have years
of four digits. -/
theorem Date.IsInCalendar.year_of_ordinal {date : Date}
    (inCalendar : date.IsInCalendar) (atLeast : 719163 ≤ date.ordinal)
    (less : date.ordinal < 3652060) :
    1000 ≤ date.year ∧ date.year < 10000 := by
  have firstOrdinal : (⟨1000, 1, 1⟩ : Date).ordinal = 364878 := by decide
  have lastOrdinal : (⟨9999, 12, 31⟩ : Date).ordinal = 3652059 := by decide
  constructor
  · by_contra! early
    have before := inCalendar.ordinal_lt
      (⟨by decide, by decide, by decide⟩ : (⟨1000, 1, 1⟩ : Date).IsInCalendar)
      (.inl early)
    omega
  · by_contra! late
    have before := Date.IsInCalendar.ordinal_lt
      (⟨by decide, by decide, by decide⟩ :
        (⟨9999, 12, 31⟩ : Date).IsInCalendar) inCalendar (.inl late)
    omega

theorem twoDigits_eq {number : Nat} (less : number < 100) :
    twoDigits number = Text.ofChars (fixedDigits 2 number) :=
  padLeft_ofNat (by decide) less

theorem ofNat_year {year : Nat} (atLeast : 1000 ≤ year) (less : year < 10000) :
    Text.ofNat year = Text.ofChars (fixedDigits 4 year) := by
  have digits : 4 - (Text.ofNat year).length = 0 :=
    Nat.sub_eq_zero_of_le ((lt_length_ofNat_iff (by decide)).mpr atLeast)
  rw [← padLeft_ofNat (by decide) less, Text.padLeft, digits,
    List.replicate_zero, List.nil_append]

theorem yearOf_eq {date : Date} (positive : 0 < date.year)
    (less : date.year < 10000) :
    yearOf ⟨date.year, date.month, date.day⟩ = .ok date.year := by
  have fits : fitsSigned 32 ((date.year : Int) - 1900) = true := by
    have bound : raise 2 (32 - 1) = 2147483648 := by decide
    simp only [fitsSigned, bound, Bool.and_eq_true, decide_eq_true_eq]
    omega
  have word : Int.bmod date.year (raise 2 32) = date.year := by
    have bound : raise 2 32 = 4294967296 := by decide
    rw [bound]
    exact Int.bmod_eq_of_le (by omega) (by omega)
  have isYear : 1 ≤ (date.year : Int) ∧ (date.year : Int) ≤ 9999 := by omega
  simp only [yearOf, fits, word, isYear, Int.toNat_natCast]
  rfl

theorem ofChars_marked (width number : Nat) (mark : Char) (rest : List Char) :
    Text.ofChars (marked width number mark rest) =
      Text.ofChars (fixedDigits width number) ++
        (.scalar mark :: Text.ofChars rest) :=
  List.map_append

/-- The numbers of a moment one after the other. -/
theorem ofChars_stampChars {moment : Moment} (universal : moment.IsUniversal)
    (atLeast : 1000 ≤ moment.date.year) :
    Text.ofChars moment.stampChars =
      Text.ofNat moment.date.year ++ "-" ++ twoDigits moment.date.month ++
        "-" ++ twoDigits moment.date.day ++ "T" ++ twoDigits moment.hour ++
        ":" ++ twoDigits moment.minute ++ ":" ++ twoDigits moment.second ++
        "." ++ Text.padLeft 3 (.scalar '0')
          (Text.ofNat (moment.microsecond / 1000)) ++ "Z" := by
  have digits := universal.two_digits
  have hour := universal.hour
  have minute := universal.minute
  have second := universal.second
  have microsecond := universal.microsecond
  rw [ofNat_year atLeast universal.year, twoDigits_eq digits.1,
    twoDigits_eq digits.2, twoDigits_eq (by omega), twoDigits_eq (by omega),
    twoDigits_eq (by omega), padLeft_ofNat (by decide) (by omega)]
  simp only [stampChars, ofChars_marked, List.append_assoc]
  rfl

/-- A time before the year 10000 has a stamp, which is that of a moment to the
millisecond. -/
theorem exists_stampOfMicroseconds {microseconds : Nat}
    (less : (startOfYear 1970).instant + microseconds <
      (startOfYear 10000).instant) :
    ∃ moment : Moment, moment.IsUniversal ∧
      moment.instant =
        (startOfYear 1970).instant + (microseconds / 1000 * 1000 : Nat) ∧
      stampOfMicroseconds microseconds =
        .ok (Text.ofChars moment.stampChars) := by
  rw [instant_startOfYear_1970, instant_startOfYear_10000] at less
  obtain ⟨date, inCalendar, isDay, ordinal⟩ :=
    CivilDay.exists_date_ofNumber (microseconds / 1000000 / 86400)
  rw [ordinal_epoch] at ordinal
  have year := inCalendar.year_of_ordinal (by omega) (by omega)
  let seconds := microseconds / 1000000 % 86400
  let moment : Moment := ⟨date, seconds / 3600, seconds / 60 % 60,
    seconds % 60, microseconds % 1000000 / 1000 * 1000, some 0⟩
  have universal : moment.IsUniversal := by
    constructor
    case date => exact inCalendar
    case year => exact year.2
    case offset => rfl
    all_goals
      dsimp only [moment, seconds]
      omega
  refine ⟨moment, universal, ?_, ?_⟩
  · rw [universal.instant_eq, instant_startOfYear_1970]
    dsimp only [moment, seconds]
    omega
  · have fits : fitsSigned 64 (microseconds / 1000000 : Nat) = true := by
      have bound : raise 2 (64 - 1) = 9223372036854775808 := by decide
      simp only [fitsSigned, bound, Bool.and_eq_true, decide_eq_true_eq]
      omega
    have quotient : Int.fdiv (microseconds : Int) 1000000 =
        (microseconds / 1000000 : Nat) := (Int.ofNat_fdiv _ _).symm
    have remainder : Int.fmod (microseconds : Int) 1000000 =
        (microseconds % 1000000 : Nat) := (Int.ofNat_fmod _ _).symm
    have days : Int.fdiv (microseconds / 1000000 : Nat) 86400 =
        (microseconds / 1000000 / 86400 : Nat) := (Int.ofNat_fdiv _ _).symm
    have second : Int.fmod (microseconds / 1000000 : Nat) 86400 =
        (seconds : Nat) := (Int.ofNat_fmod _ _).symm
    simp only [stampOfMicroseconds, quotient, remainder, days, second, isDay,
      fits, Int.toNat_natCast, yearOf_eq inCalendar.year year.2]
    have milliseconds : microseconds % 1000000 / 1000 =
        moment.microsecond / 1000 := (Nat.mul_div_cancel _ (by decide)).symm
    rw [ofChars_stampChars universal year.1, milliseconds]
    rfl

end Writing

/-- The exact number of seconds that a value is. -/
def Value.seconds? : Value → Option Rat
  | .int whole => some whole
  | .bool truth => some (if truth then 1 else 0)
  | .float number => number.toRat?
  | _ => none

section Clock

open Binary64

theorem microsecondsOf_finite (significand : Nat) (exponent : Int) :
    microsecondsOf (.float (finite false significand exponent)) =
      .ok (((dyadicRatio significand exponent).1 /
          (dyadicRatio significand exponent).2 : Nat) * 1000000 +
        (((finite false significand exponent).fraction.mul
          (ofInt 1000000)).rounded?).getD 0) := rfl

/-- The clock takes a number of seconds for the microseconds nearest to it. -/
def IsRoundedExactly (created : Value) : Prop :=
  ∀ seconds microseconds, created.seconds? = some seconds →
    IsNearestWhole (seconds * 1000000) microseconds →
    microsecondsOf created = .ok microseconds

theorem isRoundedExactly_int (whole : Int) :
    IsRoundedExactly (.int whole) := by
  intro seconds microseconds value nearest
  cases Option.some.inj value
  have itself := isNearestWhole_self (whole * 1000000)
  rw [Int.cast_mul, Int.cast_ofNat] at itself
  rw [nearest.unique itself]
  rfl

/-- A double is rounded exactly if its last bit counts at least `2 ^ -33`
seconds, as that of every double from `2 ^ 19` seconds on. -/
theorem isRoundedExactly_double (significand : Nat) {exponent : Int}
    (few : -33 ≤ exponent) :
    IsRoundedExactly (.float (finite false significand exponent)) := by
  intro seconds microseconds value nearest
  rw [Value.seconds?, toRat?_finite] at value
  cases Option.some.inj value
  have positive : 0 < (dyadicRatio significand exponent).2 :=
    raise_pos Nat.two_pos _
  rw [microsecondsOf_finite, rounded?_fraction_mul_million few]
  generalize (dyadicRatio significand exponent).1 = numerator at *
  generalize (dyadicRatio significand exponent).2 = denominator at *
  have parts : (numerator : Rat) / denominator * 1000000 =
      (((numerator / denominator : Nat) : Int) * 1000000 : Int) +
        ((numerator % denominator * 1000000 : Nat) : Rat) / denominator := by
    rw [cast_div_eq numerator positive, Int.cast_mul, Int.cast_natCast,
      Int.cast_ofNat, Nat.cast_mul, Nat.cast_ofNat]
    ring
  rw [parts] at nearest
  have even : Even (((numerator / denominator : Nat) : Int) * 1000000) :=
    (by decide : Even (1000000 : Int)).mul_left _
  rw [nearest.unique ((isNearestWhole_roundedQuotient _ positive).add even)]
  rfl

end Clock

/-- A number of seconds that is rounded exactly, to microseconds between the
start of 1970 and the year 10000. -/
structure IsTime (created : Value) (seconds : Rat) (microseconds : Int) :
    Prop where
  value : created.seconds? = some seconds
  positive : 0 ≤ seconds
  nearest : IsNearestWhole (seconds * 1000000) microseconds
  less : (startOfYear 1970).instant + microseconds <
    (startOfYear 10000).instant
  rounded : IsRoundedExactly created

/-- A row of characters tells a number of microseconds since the start of 1970,
cut to milliseconds. -/
structure IsStampOf (chars : List Char) (microseconds : Int) : Prop where
  length : chars.length = 24
  form : HasStampForm chars
  read : ∃ moment, IsRead chars moment ∧ moment.offset = some 0 ∧
    moment.instant =
      (startOfYear 1970).instant + Int.fdiv microseconds 1000 * 1000

section Stamps

variable {created later : Value} {seconds laterSeconds : Rat}
  {microseconds laterMicroseconds : Int}

theorem IsTime.microseconds_nonneg
    (time : IsTime created seconds microseconds) : 0 ≤ microseconds :=
  time.nearest.nonneg (mul_nonneg time.positive (by norm_num))

/-- The stamp of a time is what is written of a moment to the millisecond. -/
theorem IsTime.exists_moment (time : IsTime created seconds microseconds) :
    ∃ moment : Moment, moment.IsUniversal ∧
      moment.instant =
        (startOfYear 1970).instant + Int.fdiv microseconds 1000 * 1000 ∧
      stamp created = .ok (Text.ofChars moment.stampChars) := by
  obtain ⟨number, rfl⟩ := Int.eq_ofNat_of_zero_le time.microseconds_nonneg
  obtain ⟨moment, universal, instant, stamped⟩ :=
    exists_stampOfMicroseconds time.less
  have quotient : Int.fdiv (number : Int) 1000 = (number / 1000 : Nat) :=
    (Int.ofNat_fdiv _ _).symm
  refine ⟨moment, universal, ?_, ?_⟩
  · rw [instant, quotient, Nat.cast_mul]
    rfl
  · rw [stamp, time.rounded _ _ time.value time.nearest]
    exact stamped

theorem isStampOf_stampChars {moment : Moment}
    (universal : moment.IsUniversal)
    (instant : moment.instant =
      (startOfYear 1970).instant + Int.fdiv microseconds 1000 * 1000) :
    IsStampOf moment.stampChars microseconds where
  length := (hasStampForm_stampChars moment).length_eq
  form := hasStampForm_stampChars moment
  read := ⟨moment, universal.isRead_stampChars, universal.offset, instant⟩

/-- Every time has a stamp of its date and time of day to the millisecond, and
the stamps of two times stand in the order of the times. -/
theorem stamps_sort (time : IsTime created seconds microseconds)
    (laterTime : IsTime later laterSeconds laterMicroseconds)
    (le : seconds ≤ laterSeconds) :
    ∃ chars laterChars,
      stamp created = .ok (Text.ofChars chars) ∧
      IsStampOf chars microseconds ∧
      stamp later = .ok (Text.ofChars laterChars) ∧
      IsStampOf laterChars laterMicroseconds ∧
      (chars = laterChars ∨ IsBefore chars laterChars) := by
  obtain ⟨moment, universal, instant, stamped⟩ := time.exists_moment
  obtain ⟨laterMoment, laterUniversal, laterInstant, laterStamped⟩ :=
    laterTime.exists_moment
  refine ⟨_, _, stamped, isStampOf_stampChars universal instant, laterStamped,
    isStampOf_stampChars laterUniversal laterInstant, ?_⟩
  have microsecondsLe : microseconds ≤ laterMicroseconds :=
    time.nearest.le laterTime.nearest
      (mul_le_mul_of_nonneg_right le (by norm_num))
  have instantLe : moment.instant ≤ laterMoment.instant := by
    rw [instant, laterInstant, Int.fdiv_eq_ediv_of_nonneg _ (by decide),
      Int.fdiv_eq_ediv_of_nonneg _ (by decide)]
    omega
  rcases universal.eq_or_before laterUniversal with same | before | after
  · exact .inl (congrArg stampChars same)
  · exact .inr (universal.isBefore_stampChars laterUniversal before)
  · exact absurd (laterUniversal.instant_lt universal after)
      (not_lt.mpr instantLe)

/-- The last double before the year 2000, which the clock carries over into
it. -/
theorem isTime_carried :
    IsTime (.float (.finite false 7941367686758399 (-23)))
      (7941367686758399 / 2 ^ 23) 946684800000000 where
  value := by norm_num [Value.seconds?, Binary64.toRat?]
  positive := by norm_num
  nearest := by
    constructor
    · rw [abs_le]
      norm_num
    · intro half
      norm_num [abs_of_nonpos] at half
  less := by decide +kernel
  rounded := isRoundedExactly_double _ (by decide)

theorem isTime_leapDay :
    IsTime (.int 951782400) 951782400 951782400000000 where
  value := by norm_num [Value.seconds?]
  positive := by norm_num
  nearest := by
    convert isNearestWhole_self 951782400000000 using 1
    norm_num
  less := by decide +kernel
  rounded := isRoundedExactly_int _

/-- A time that is rounded up into the year 2000, and the leap day of this
year. -/
theorem stamps_sort_carried : ∃ chars laterChars,
    stamp (.float (.finite false 7941367686758399 (-23))) =
      .ok (Text.ofChars chars) ∧
    IsStampOf chars 946684800000000 ∧
    stamp (.int 951782400) = .ok (Text.ofChars laterChars) ∧
    IsStampOf laterChars 951782400000000 ∧
    (chars = laterChars ∨ IsBefore chars laterChars) :=
  stamps_sort isTime_carried isTime_leapDay (by norm_num)

example : stamp (.float (.finite false 7941367686758399 (-23))) =
    .ok ("2000-01-01T00:00:00.000Z" : Text) := by
  decide +kernel

end Stamps

end VestingContract
