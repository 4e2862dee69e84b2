import Mathlib.Data.List.Induction
import Mathlib.Data.List.TakeWhile
import Mathlib.Tactic.IntervalCases
import VestingContract.Dataset.Token
import VestingContract.Proofs.Json.Spelling

/-!
# Integers in documents

An integer is written in a document with as few digits as it takes, so it is
spelled again as it is written there.  Two texts have no integer that spells
them: a negative zero, and one of more digits than the limit allows.
-/

namespace VestingContract

section Digits

variable {char : Char}

theorem exists_digitChar (digit : Json.isDigit char = true) :
    ∃ value < 10, char = Nat.digitChar value := by
  simp only [Json.isDigit, Bool.and_eq_true, decide_eq_true_eq] at digit
  have least : 48 ≤ char.toNat := digit.1
  have greatest : char.toNat ≤ 57 := digit.2
  refine ⟨char.toNat - 48, by omega, ?_⟩
  rw [← Char.ofNat_toNat char]
  generalize char.toNat = number at least greatest
  interval_cases number <;> rfl

theorem digitValue?_digitChar :
    ∀ value < 10, digitValue? (Nat.digitChar value) = some value := by
  decide

theorem isDigitOf_of_isDigit (digit : Json.isDigit char = true) :
    isDigitOf 10 char = true := by
  obtain ⟨value, less, rfl⟩ := exists_digitChar digit
  rw [isDigitOf, digitValue?_digitChar value less]
  exact decide_eq_true less

theorem toNumberChar_of_isDigit (digit : Json.isDigit char = true) :
    CodePoint.toNumberChar (.scalar char) = char := by
  have ascii : ∀ value < 10, CodePoint.toNumberChar
      (.scalar (Nat.digitChar value)) = Nat.digitChar value := by decide
  obtain ⟨value, less, rfl⟩ := exists_digitChar digit
  exact ascii value less

theorem isNumberSpace_of_isDigit (digit : Json.isDigit char = true) :
    isNumberSpace char = false := by
  have noSpace : ∀ value < 10,
      isNumberSpace (Nat.digitChar value) = false := by decide
  obtain ⟨value, less, rfl⟩ := exists_digitChar digit
  exact noSpace value less

theorem ne_of_isDigit {other : Char} (digit : Json.isDigit char = true)
    (noDigit : Json.isDigit other = false) : char ≠ other := by
  rintro rfl
  rw [digit] at noDigit
  cases noDigit

end Digits

section Reading

variable {digits : List Char}

theorem ofDigits_append (digits : List Char) (last : Char) :
    ofDigits 10 (digits ++ [last]) =
      10 * ofDigits 10 digits + (digitValue? last).getD 0 := by
  rw [ofDigits, List.foldl_append, Nat.mul_comm]
  rfl

/-- Digits behind one that is no zero spell a positive number, which is
written with these digits. -/
theorem toDigits_ofDigits_of_head? (areDigits : Json.IsDigits digits)
    (noZero : digits.head? ≠ some '0') :
    0 < ofDigits 10 digits ∧ Nat.toDigits 10 (ofDigits 10 digits) = digits := by
  obtain ⟨nonempty, all⟩ := areDigits
  induction digits using List.reverseRecOn with
  | nil => exact absurd rfl nonempty
  | append_singleton digits last ih =>
      obtain ⟨others, isDigit⟩ := List.forall_mem_append.mp all
      obtain ⟨value, less, rfl⟩ :=
        exists_digitChar (isDigit last List.mem_cons_self)
      rw [ofDigits_append, digitValue?_digitChar value less, Option.getD_some]
      cases digits with
      | nil =>
          have positive : 0 < value := by
            rcases Nat.eq_zero_or_pos value with rfl | positive
            · exact absurd rfl noZero
            · exact positive
          have single : ofDigits 10 [] = 0 := rfl
          rw [single, Nat.mul_zero, Nat.zero_add]
          exact ⟨positive, Nat.toDigits_of_lt_base less⟩
      | cons first digits =>
          obtain ⟨positive, written⟩ := ih (by simpa using noZero) (by simp)
            others
          refine ⟨by omega, ?_⟩
          rw [← Nat.toDigits_append_toDigits (by decide) positive less, written,
            Nat.toDigits_of_lt_base less]

/-- An integral part is how its number is written. -/
theorem toDigits_ofDigits (integral : Json.IsIntegral digits) :
    Nat.toDigits 10 (ofDigits 10 digits) = digits := by
  rcases integral with rfl | ⟨areDigits, noZero⟩
  · rfl
  · exact (toDigits_ofDigits_of_head? areDigits noZero).2

theorem isDigits_of_isIntegral (integral : Json.IsIntegral digits) :
    Json.IsDigits digits := by
  rcases integral with rfl | ⟨areDigits, -⟩
  · exact ⟨by decide, Json.forall_mem_of_all (by decide)⟩
  · exact areDigits

/-- Characters of a number with no white space among them. -/
theorem numberChars_ofChars {chars : List Char}
    (plain : ∀ char ∈ chars, CodePoint.toNumberChar (.scalar char) = char ∧
      isNumberSpace char = false) :
    numberChars (Text.ofChars chars) = chars := by
  have kept : (Text.ofChars chars).map CodePoint.toNumberChar = chars := by
    rw [Text.ofChars, List.map_map]
    exact (List.map_congr_left fun char isMember =>
      (plain char isMember).1).trans (List.map_id chars)
  have noSpace : ∀ others : List Char, (∀ char ∈ others, char ∈ chars) →
      others.dropWhile isNumberSpace = others := fun others among =>
    List.dropWhile_eq_self_iff.mpr fun nonempty => by
      rw [(plain _ (among _ (List.getElem_mem nonempty))).2]
      exact Bool.false_ne_true
  rw [numberChars, kept, noSpace chars (fun _ => id),
    noSpace chars.reverse (by simp), List.reverse_reverse]

theorem underscoresSeparate_of_forall {run : List Char}
    (none : ∀ char ∈ run, char ≠ '_') : underscoresSeparate run = true := by
  fun_induction underscoresSeparate run with
  | case1 => rfl
  | case2 => exact absurd rfl (none '_' (by simp))
  | case3 => exact absurd rfl (none '_' (by simp))
  | case4 first rest _ _ ih =>
      exact ih (List.forall_mem_cons.mp none).2

theorem splitBase_of_isIntegral (integral : Json.IsIntegral digits) :
    splitBase 10 digits = (10, digits) := by
  rcases integral with rfl | ⟨-, noZero⟩
  · rfl
  · simp only [splitBase]
    split
    · exact absurd List.head?_cons noZero
    · rfl

theorem splitSign_of_isDigits (areDigits : Json.IsDigits digits) :
    splitSign digits = (false, digits) := by
  rw [splitSign]
  · rintro rest rfl
    exact ne_of_isDigit (areDigits.2 '-' (by simp)) (by decide) rfl
  · rintro rest rfl
    exact ne_of_isDigit (areDigits.2 '+' (by simp)) (by decide) rfl

/-- A sign and an integral part are read as an integer. -/
theorem readWhole_of_splitSign {source : Text} {negative : Bool}
    (split : splitSign (numberChars source) = (negative, digits))
    (integral : Json.IsIntegral digits)
    (within : digits.length ≤ digitLimit) :
    readWhole 10 source =
      .ok (if negative then -(ofDigits 10 digits : Int)
        else ofDigits 10 digits) := by
  obtain ⟨nonempty, all⟩ := isDigits_of_isIntegral integral
  have noUnderscore : ∀ char ∈ digits, char ≠ '_' := fun char isMember =>
    ne_of_isDigit (all char isMember) (by decide)
  have run : digits.takeWhile
      (fun char => char == '_' || isDigitOf 10 char) = digits :=
    List.takeWhile_eq_self_iff.mpr fun char isMember => by
      rw [isDigitOf_of_isDigit (all char isMember), Bool.or_true]
  have spelled : digits.filter (· != '_') = digits :=
    List.filter_eq_self.mpr fun char isMember =>
      bne_iff_ne.mpr (noUnderscore char isMember)
  have separate := underscoresSeparate_of_forall noUnderscore
  have first : digits.head? ≠ some '_' := fun isFirst =>
    noUnderscore _ (List.mem_of_head? isFirst) rfl
  have base : isBinaryBase 10 = false := by decide
  simp only [readWhole, split, splitBase_of_isIntegral integral, run, spelled,
    separate, base]
  simp [nonempty, first, within]

end Reading

section Wholes

namespace Json

/-- An integer as documents write it, which is no negative zero and keeps
within the limit of digits. -/
def IsWhole (lexeme : List Char) : Prop :=
  ∃ sign digits, (sign = [] ∨ sign = ['-']) ∧ IsIntegral digits ∧
    digits.length ≤ digitLimit ∧ lexeme = sign ++ digits ∧
    lexeme ≠ ['-', '0']

theorem IsWhole.isNumber {lexeme : List Char} (whole : IsWhole lexeme) :
    IsNumber lexeme := by
  obtain ⟨sign, digits, signs, integral, -, rfl, -⟩ := whole
  exact ⟨sign, digits, [], [], signs, integral, .inl rfl, .inl rfl,
    by simp⟩

end Json

theorem lt_length_ofNat_iff {limit : Nat} (positive : 0 < limit)
    {number : Nat} :
    limit < (Text.ofNat number).length ↔ raise 10 limit ≤ number := by
  have within : (Text.ofNat number).length ≤ limit ↔ number < 10 ^ limit := by
    rw [Text.ofNat, Text.ofChars, List.length_map]
    exact Nat.length_toDigits_le_iff (by decide) positive
  rw [← Nat.not_le, within, Nat.not_lt]
  exact Iff.rfl

theorem spellWhole_of_length {whole : Int}
    (within : (Text.ofNat whole.natAbs).length ≤ digitLimit) :
    spellWhole whole = .ok (Text.ofInt whole) := by
  rw [← Nat.not_lt, lt_length_ofNat_iff (by decide)] at within
  exact if_neg within

theorem ofInt_neg {number : Nat} (positive : 0 < number) :
    Text.ofInt (-(number : Int)) = .scalar '-' :: Text.ofNat number := by
  obtain ⟨before, rfl⟩ := Nat.exists_eq_add_one.mpr positive
  rfl

/-- An integer of a document is read as one that is spelled as it is
written. -/
theorem Json.IsWhole.spellWhole_readWhole {lexeme : List Char}
    (isWhole : IsWhole lexeme) :
    ∃ whole, readWhole 10 (Text.ofChars lexeme) = .ok whole ∧
      spellWhole whole = .ok (Text.ofChars lexeme) := by
  obtain ⟨sign, digits, signs, integral, within, rfl, noZero⟩ := isWhole
  obtain ⟨nonempty, all⟩ := isDigits_of_isIntegral integral
  have written : Text.ofNat (ofDigits 10 digits) = Text.ofChars digits := by
    rw [Text.ofNat, toDigits_ofDigits integral]
  have plain : ∀ char ∈ digits,
      CodePoint.toNumberChar (.scalar char) = char ∧
        isNumberSpace char = false := fun char isMember =>
    ⟨toNumberChar_of_isDigit (all char isMember),
      isNumberSpace_of_isDigit (all char isMember)⟩
  have short : (Text.ofNat (ofDigits 10 digits)).length ≤ digitLimit := by
    rwa [written, Text.ofChars, List.length_map]
  rcases signs with rfl | rfl
  · have split : splitSign (numberChars (Text.ofChars digits)) =
        (false, digits) := by
      rw [numberChars_ofChars plain, splitSign_of_isDigits ⟨nonempty, all⟩]
    refine ⟨_, readWhole_of_splitSign split integral within, ?_⟩
    rw [if_neg Bool.false_ne_true,
      spellWhole_of_length (by rwa [Int.natAbs_natCast])]
    exact congrArg Except.ok written
  · have split : splitSign (numberChars (Text.ofChars ('-' :: digits))) =
        (true, digits) := by
      rw [numberChars_ofChars
        (List.forall_mem_cons.mpr ⟨by decide, plain⟩)]
      rfl
    have positive : 0 < ofDigits 10 digits := by
      rcases integral with rfl | ⟨areDigits, noZero⟩
      · exact absurd rfl noZero
      · exact (toDigits_ofDigits_of_head? areDigits noZero).1
    refine ⟨_, readWhole_of_splitSign split integral within, ?_⟩
    rw [if_pos rfl, spellWhole_of_length (by rwa [Int.natAbs_neg,
      Int.natAbs_natCast]), ofInt_neg positive, written]
    rfl

end Wholes

section Writing

variable {number : Nat} {whole other : Int}

theorem isDigits_toDigits (number : Nat) :
    Json.IsDigits (Nat.toDigits 10 number) := by
  refine ⟨Nat.toDigits_ne_nil, fun char member => ?_⟩
  have digit := Nat.isDigit_of_mem_toDigits (by decide) (by decide) member
  simpa [Json.isDigit, Char.isDigit, Char.le_def] using digit

theorem head?_toDigits_ne (positive : 0 < number) :
    (Nat.toDigits 10 number).head? ≠ some '0' := by
  induction number using Nat.strongRecOn with
  | ind number ih =>
      rcases Nat.lt_or_ge number 10 with less | atLeast
      · rw [Nat.toDigits_of_lt_base less]
        interval_cases number <;> decide
      · have others := ih (number / 10) (by omega) (by omega)
        obtain ⟨first, rest, written⟩ := List.exists_cons_of_ne_nil
          (@Nat.toDigits_ne_nil (number / 10) 10)
        rw [written] at others
        rw [Nat.toDigits_of_base_le (by decide) atLeast, written]
        exact others

/-- A number is written as an integral part. -/
theorem isIntegral_toDigits (number : Nat) :
    Json.IsIntegral (Nat.toDigits 10 number) := by
  rcases Nat.eq_zero_or_pos number with rfl | positive
  · exact .inl rfl
  · exact .inr ⟨isDigits_toDigits number, head?_toDigits_ne positive⟩

theorem minus_not_mem_ofNat (number : Nat) :
    CodePoint.scalar '-' ∉ Text.ofNat number := by
  intro member
  obtain ⟨char, isDigit, same⟩ := List.mem_map.mp member
  cases same
  exact absurd ((isDigits_toDigits number).2 _ isDigit) (by decide)

theorem ofNat_injective : Function.Injective Text.ofNat := by
  intro number other same
  have sameDigits : Nat.toDigits 10 number = Nat.toDigits 10 other :=
    (List.map_inj_right fun _ _ => CodePoint.scalar.inj).mp same
  rw [← @Nat.ofDigitChars_ten_toDigits number, sameDigits,
    Nat.ofDigitChars_ten_toDigits]

/-- A number is read back from its digits. -/
theorem ofDigits_toDigits (number : Nat) :
    ofDigits 10 (Nat.toDigits 10 number) = number := by
  apply ofNat_injective
  rw [Text.ofNat, Text.ofNat, toDigits_ofDigits (isIntegral_toDigits number)]

theorem map_toNumberChar_ofNat (number : Nat) :
    (Text.ofNat number).map CodePoint.toNumberChar =
      Nat.toDigits 10 number := by
  rw [Text.ofNat, Text.ofChars, List.map_map]
  have same : ∀ char ∈ Nat.toDigits 10 number,
      (CodePoint.toNumberChar ∘ CodePoint.scalar) char = id char :=
    fun char member =>
      toNumberChar_of_isDigit ((isDigits_toDigits number).2 char member)
  rw [List.map_congr_left same, List.map_id]

theorem ofInt_injective : Function.Injective Text.ofInt := by
  intro whole other same
  cases whole with
  | ofNat number =>
      cases other with
      | ofNat other => rw [ofNat_injective same]
      | negSucc other =>
          refine absurd ?_ (minus_not_mem_ofNat number)
          exact (congrArg (CodePoint.scalar '-' ∈ ·) same).mpr
            List.mem_cons_self
  | negSucc number =>
      cases other with
      | ofNat other =>
          refine absurd ?_ (minus_not_mem_ofNat other)
          exact (congrArg (CodePoint.scalar '-' ∈ ·) same).mp
            List.mem_cons_self
      | negSucc other =>
          have next := ofNat_injective (List.tail_eq_of_cons_eq same)
          rw [Nat.succ.inj next]

/-- An integer is written as documents write it. -/
theorem Json.exists_isWhole_ofInt
    (within : (Text.ofNat whole.natAbs).length ≤ digitLimit) :
    ∃ lexeme, Text.ofInt whole = Text.ofChars lexeme ∧ IsWhole lexeme := by
  rw [Text.ofNat, Text.ofChars, List.length_map] at within
  cases whole with
  | ofNat number =>
      refine ⟨_, rfl, [], _, .inl rfl, isIntegral_toDigits number, within,
        rfl, fun negative => ?_⟩
      have isDigit := (isDigits_toDigits number).2 '-'
        (negative ▸ List.mem_cons_self)
      cases isDigit
  | negSucc number =>
      refine ⟨'-' :: Nat.toDigits 10 (number + 1), rfl, ['-'], _, .inr rfl,
        isIntegral_toDigits (number + 1), within, rfl, fun isZero => ?_⟩
      have zero := List.tail_eq_of_cons_eq isZero
      exact head?_toDigits_ne (Nat.succ_pos number) (by rw [zero]; rfl)

/-- An integer within the limit is read back from what is written for it. -/
theorem readWhole_ofInt
    (within : (Text.ofNat whole.natAbs).length ≤ digitLimit) :
    readWhole 10 (Text.ofInt whole) = .ok whole := by
  obtain ⟨lexeme, written, isWhole⟩ := Json.exists_isWhole_ofInt within
  obtain ⟨other, isRead, spelled⟩ := isWhole.spellWhole_readWhole
  rw [← written] at isRead spelled
  have short : spellWhole other = .ok (Text.ofInt other) := by
    rw [spellWhole] at spelled ⊢
    split at spelled
    · cases spelled
    · next inLimit => rw [if_neg inLimit]
  rw [isRead, ofInt_injective (Except.ok.inj (short.symm.trans spelled))]

end Writing

end VestingContract
