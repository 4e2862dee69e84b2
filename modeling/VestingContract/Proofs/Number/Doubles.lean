import VestingContract.Number.Shortest
import VestingContract.Proofs.Number.Wholes

/-!
# Doubles in documents

The shortest digits of a double are those of a positive number, so a finite
double is written as a number of documents: with digits on both sides of a
point, or with one digit in front of the point and with an exponent.
-/

namespace VestingContract

namespace Binary64

section Digits

variable {bound coefficient significand : Nat} {exponent power : Int}

theorem stripZeros_zero (bound : Nat) (power : Int) :
    stripZeros bound 0 power = (0, power) := by
  cases bound <;> rfl

theorem stripZeros_pos (positive : 0 < coefficient) :
    0 < (stripZeros bound coefficient power).1 := by
  induction bound generalizing coefficient power with
  | zero => exact positive
  | succ bound ih =>
      rw [stripZeros]
      split
      · exact ih (by omega)
      · exact positive

/-- The reals that round to a positive double are positive. -/
theorem lower_pos (positive : 0 < significand) :
    0 < (roundingInterval significand exponent).lower := by
  have unit : 0 < raise 2 exponent.toNat := raise_pos Nat.two_pos _
  have least : raise 2 exponent.toNat ≤
      significand * raise 2 exponent.toNat :=
    Nat.le_mul_of_pos_left _ positive
  simp only [roundingInterval, dyadicRatio]
  split <;> omega

theorem RoundingInterval.pos_of_holds {interval : RoundingInterval}
    (positive : 0 < interval.lower)
    (holds : interval.holds coefficient power = true) : 0 < coefficient := by
  have scaled : 0 < interval.lower * raise 10 (-power).toNat :=
    Nat.mul_pos positive (raise_pos (by decide) _)
  by_contra! isZero
  obtain rfl := Nat.le_zero.mp isZero
  simp only [RoundingInterval.holds, Nat.zero_mul] at holds
  split at holds <;> simp only [Bool.and_eq_true, decide_eq_true_eq] at holds <;>
    omega

/-- The shortest digits are those of a positive number, or a single zero. -/
theorem shortest_pos_or (positive : 0 < significand) :
    0 < (shortest significand exponent).1 ∨
      shortest significand exponent = (0, 0) := by
  simp only [shortest]
  generalize found : (List.range 17).findSome? _ = candidate
  cases candidate with
  | none => exact .inr rfl
  | some digits =>
      obtain ⟨extraDigits, -, isCandidate⟩ :=
        List.exists_of_findSome?_eq_some found
      obtain ⟨coefficient, isHeld, rfl⟩ := Option.map_eq_some_iff.mp isCandidate
      have holds := List.find?_some isHeld
      exact .inl (RoundingInterval.pos_of_holds (lower_pos positive) holds)

end Digits

section Spelling

/-- A text that is a number of documents, without a sign. -/
def SpellsMagnitude (text : Text) : Prop :=
  ∃ integral fraction exponent, Json.IsIntegral integral ∧
    Json.IsFraction fraction ∧ Json.IsExponent exponent ∧
    text = Text.ofChars (integral ++ fraction ++ exponent)

variable {digits : List Char}

theorem isDigits_append_zeros (areDigits : Json.IsDigits digits)
    (count : Nat) : Json.IsDigits (digits ++ List.replicate count '0') := by
  refine ⟨fun none => areDigits.1 (List.append_eq_nil_iff.mp none).1, ?_⟩
  rw [List.forall_mem_append]
  exact ⟨areDigits.2, fun char member => List.eq_of_mem_replicate member ▸ rfl⟩

theorem isDigits_zeros_append (areDigits : Json.IsDigits digits)
    (count : Nat) : Json.IsDigits (List.replicate count '0' ++ digits) := by
  refine ⟨fun none => areDigits.1 (List.append_eq_nil_iff.mp none).2, ?_⟩
  rw [List.forall_mem_append]
  exact ⟨fun char member => List.eq_of_mem_replicate member ▸ rfl, areDigits.2⟩

/-- The first digits of an integral part are one. -/
theorem isIntegral_take (integral : Json.IsIntegral digits) {count : Nat}
    (positive : 0 < count) : Json.IsIntegral (digits.take count) := by
  obtain ⟨fewer, rfl⟩ := Nat.exists_eq_add_one.mpr positive
  obtain ⟨first, rest, rfl⟩ :=
    List.exists_cons_of_ne_nil (isDigits_of_isIntegral integral).1
  rcases integral with single | ⟨areDigits, noZero⟩
  · cases single
    exact .inl (by rw [List.take_succ_cons, List.take_nil])
  · refine .inr ⟨⟨by simp, fun char member => ?_⟩, noZero⟩
    exact areDigits.2 char (List.mem_of_mem_take member)

theorem isFraction_drop (areDigits : Json.IsDigits digits) {count : Nat}
    (less : count < digits.length) :
    Json.IsFraction ('.' :: digits.drop count) := by
  refine .inr ⟨_, ⟨?_, fun char member => ?_⟩, rfl⟩
  · exact fun none => absurd (List.drop_eq_nil_iff.mp none) (not_le.mpr less)
  · exact areDigits.2 char (List.mem_of_mem_drop member)

/-- Zeros are put behind digits only if these are no single zero. -/
theorem spellsMagnitude_positional {pointAfter : Int}
    (integral : Json.IsIntegral digits)
    (point : digits = ['0'] → pointAfter = 1) :
    SpellsMagnitude (positional (Text.ofChars digits) pointAfter) := by
  have areDigits := isDigits_of_isIntegral integral
  have zeros (count : Nat) : Text.zeros count =
      Text.ofChars (List.replicate count '0') := List.map_replicate.symm
  have length : (Text.ofChars digits).length = digits.length :=
    List.length_map _
  have single : Json.IsDigits ['0'] :=
    ⟨by decide, List.forall_mem_singleton.mpr rfl⟩
  simp only [positional, zeros, length]
  split_ifs with inFront behind
  · refine ⟨['0'], '.' :: (List.replicate (-pointAfter).toNat '0' ++ digits),
      [], .inl rfl, .inr ⟨_, isDigits_zeros_append areDigits _, rfl⟩, .inl rfl, ?_⟩
    simp [Text.ofChars, Text.ofString]
  · refine ⟨digits ++ List.replicate (pointAfter.toNat - digits.length) '0',
      ['.', '0'], [], ?_, .inr ⟨['0'], single, rfl⟩, .inl rfl, ?_⟩
    · rcases integral with rfl | ⟨-, noZero⟩
      · rw [point rfl]
        exact .inl rfl
      · refine .inr ⟨isDigits_append_zeros areDigits _, ?_⟩
        obtain ⟨first, rest, rfl⟩ := List.exists_cons_of_ne_nil areDigits.1
        exact noZero
    · simp [Text.ofChars, Text.ofString]
  · refine ⟨digits.take pointAfter.toNat,
      '.' :: digits.drop pointAfter.toNat, [],
      isIntegral_take integral (by omega),
      isFraction_drop areDigits (not_le.mp behind), .inl rfl, ?_⟩
    simp [Text.ofChars, Text.ofString]

theorem spellsMagnitude_scientific (integral : Json.IsIntegral digits)
    (power : Int) :
    SpellsMagnitude (scientific (Text.ofChars digits) power) := by
  have areDigits := isDigits_of_isIntegral integral
  have length : (Text.ofChars digits).length = digits.length :=
    List.length_map _
  refine ⟨digits.take 1,
    if 1 < digits.length then '.' :: digits.drop 1 else [],
    'e' :: ([if power < 0 then '-' else '+'] ++
      (List.replicate (2 - (Text.ofNat power.natAbs).length) '0' ++
        Nat.toDigits 10 power.natAbs)),
    isIntegral_take integral Nat.one_pos, ?_, .inr ⟨_, _, _, .inl rfl, ?_,
      isDigits_zeros_append (isDigits_toDigits _) _, rfl⟩, ?_⟩
  · split_ifs with more
    · exact isFraction_drop areDigits more
    · exact .inl rfl
  · split_ifs
    · exact .inr (.inr rfl)
    · exact .inr (.inl rfl)
  · simp only [scientific, exponentPart, Text.padLeft, length]
    split_ifs <;> simp [Text.ofChars, Text.ofString, Text.ofNat]

end Spelling

/-- The digits of a magnitude, with the point where its power of ten puts
it. -/
theorem spellsMagnitude_digits {coefficient : Nat} {power : Int}
    (positive : 0 < coefficient ∨ power = 0) :
    SpellsMagnitude
      (let digits := Text.ofNat coefficient
       let pointAfter := power + digits.length
       if -4 < pointAfter ∧ pointAfter ≤ 16 then positional digits pointAfter
       else scientific digits (pointAfter - 1)) := by
  have integral := isIntegral_toDigits coefficient
  dsimp only
  split_ifs
  · refine spellsMagnitude_positional integral fun isZero => ?_
    have noPower : power = 0 := by
      rcases positive with positive | noPower
      · exact absurd (congrArg List.head? isZero) (head?_toDigits_ne positive)
      · exact noPower
    rw [noPower, Text.ofNat, isZero]
    rfl
  · exact spellsMagnitude_scientific integral _

theorem spellsMagnitude_finite (significand : Nat) (exponent : Int) :
    SpellsMagnitude (finite false significand exponent).toText := by
  rcases Nat.eq_zero_or_pos significand with rfl | positive
  · exact ⟨['0'], ['.', '0'], [], .inl rfl,
      .inr ⟨['0'], ⟨by decide, List.forall_mem_singleton.mpr rfl⟩, rfl⟩,
      .inl rfl, rfl⟩
  · have digits : 0 < (stripZeros 17 (shortest significand exponent).1
          (shortest significand exponent).2).1 ∨
        (stripZeros 17 (shortest significand exponent).1
          (shortest significand exponent).2).2 = 0 := by
      rcases @shortest_pos_or _ exponent positive with ofPositive | isZero
      · exact .inl (stripZeros_pos ofPositive)
      · rw [isZero, stripZeros_zero]
        exact .inr rfl
    simp only [toText, positive.ne', if_false, Bool.false_eq_true]
    exact spellsMagnitude_digits digits

theorem toText_negative (significand : Nat) (exponent : Int) :
    (finite true significand exponent).toText =
      .scalar '-' :: (finite false significand exponent).toText := by
  simp only [toText, if_true, Bool.false_eq_true, if_false]

/-- A finite double is written as a number of documents. -/
theorem exists_isNumber_toText {number : Binary64}
    (isFinite : number.isFinite = true) :
    ∃ lexeme, number.toText = Text.ofChars lexeme ∧ Json.IsNumber lexeme := by
  obtain _ | _ | ⟨negative, significand, exponent⟩ := number
  · cases isFinite
  · cases isFinite
  -- A sign is all that the magnitude is preceded by.
  obtain ⟨integral, fraction, exponent, isIntegral, isFraction, isExponent,
    written⟩ := spellsMagnitude_finite significand exponent
  cases negative with
  | false =>
      exact ⟨_, written, [], integral, fraction, exponent, .inl rfl,
        isIntegral, isFraction, isExponent, rfl⟩
  | true =>
      refine ⟨'-' :: (integral ++ fraction ++ exponent), ?_, ['-'], integral,
        fraction, exponent, .inr rfl, isIntegral, isFraction, isExponent, rfl⟩
      rw [toText_negative, written]
      rfl

end Binary64

end VestingContract
