import Mathlib.Data.List.TakeWhile
import VestingContract.Proofs.Run.Results
import VestingContract.Text.Utf8

/-!
# Decoding what was encoded

The bytes of a sequence of characters decode to these characters, and no
other bytes do.  The first byte of a character decides how many bytes follow,
so that there is one lemma for each length of a sequence in either direction.
-/

namespace VestingContract

namespace Utf8

theorem toNat_byte {number : Nat} (small : number < 256) :
    (UInt8.ofNat number).toNat = number :=
  UInt8.toNat_ofNat_of_lt' small

theorem assemble_eq {char : Char} {leadBits : Nat} {bytes : List UInt8}
    (number : bytes.foldl (fun bits byte => bits * 64 + (byte.toNat - 0x80))
      leadBits = char.toNat) :
    assemble leadBits bytes = char := by
  rw [assemble, number, Char.ofNat_toNat]

/-- Six bits behind the mark of a continuation are one. -/
theorem isContinuation_of_toNat {byte : UInt8} {bits : Nat}
    (value : byte.toNat = bits % 64 + 0x80) : isContinuation byte = true := by
  simp only [isContinuation, Bool.and_eq_true, decide_eq_true_eq,
    UInt8.le_iff_toNat_le, value]
  simp
  omega

section Sequences

variable {position : Nat} {rest : List UInt8} {char : Char}
variable {first second third fourth : UInt8}

theorem decodeFrom_one (firstValue : first.toNat = char.toNat)
    (small : char.toNat ≤ 0x7F) :
    decodeFrom position (first :: rest) =
      (decodeFrom (position + 1) rest).map (char :: ·) := by
  have lead : first < 0x80 := by
    rw [UInt8.lt_iff_toNat_lt, firstValue]
    exact Nat.lt_succ_of_le small
  rw [decodeFrom.eq_def]
  simp only [if_pos lead, firstValue, Char.ofNat_toNat]
  cases decodeFrom (position + 1) rest <;> rfl

theorem decodeFrom_two
    (firstValue : first.toNat = char.toNat / 64 % 32 + 0xC0)
    (secondValue : second.toNat = char.toNat % 64 + 0x80)
    (large : 0x7F < char.toNat) (small : char.toNat ≤ 0x7FF) :
    decodeFrom position (first :: second :: rest) =
      (decodeFrom (position + 2) rest).map (char :: ·) := by
  have notOne : ¬ first < 0x80 := by
    simp [UInt8.lt_iff_toNat_lt, firstValue]
  have notAlone : ¬ first < 0xC2 := by
    simp [UInt8.lt_iff_toNat_lt, firstValue]
    omega
  have lead : first < 0xE0 := by
    simp [UInt8.lt_iff_toNat_lt, firstValue]
    omega
  have assembled : assemble (first.toNat - 0xC0) [second] = char := by
    apply assemble_eq
    simp only [List.foldl_cons, List.foldl_nil, firstValue, secondValue]
    omega
  rw [decodeFrom.eq_def]
  simp only [if_neg notOne, if_neg notAlone, if_pos lead,
    isContinuation_of_toNat secondValue, if_true, assembled]
  cases decodeFrom (position + 2) rest <;> rfl

theorem decodeFrom_three
    (firstValue : first.toNat = char.toNat / 4096 % 16 + 0xE0)
    (secondValue : second.toNat = char.toNat / 64 % 64 + 0x80)
    (thirdValue : third.toNat = char.toNat % 64 + 0x80)
    (large : 0x7FF < char.toNat) (small : char.toNat ≤ 0xFFFF) :
    decodeFrom position (first :: second :: third :: rest) =
      (decodeFrom (position + 3) rest).map (char :: ·) := by
  have notSurrogate : char.toNat < 0xD800 ∨ 0xDFFF < char.toNat := by
    have valid := char.valid
    simp only [UInt32.isValidChar, Nat.isValidChar] at valid
    change char.val.toNat < 0xD800 ∨ 0xDFFF < char.val.toNat
    omega
  have notOne : ¬ first < 0x80 := by
    simp [UInt8.lt_iff_toNat_lt, firstValue]
  have notAlone : ¬ first < 0xC2 := by
    simp [UInt8.lt_iff_toNat_lt, firstValue]
  have notTwo : ¬ first < 0xE0 := by
    simp [UInt8.lt_iff_toNat_lt, firstValue]
  have lead : first < 0xF0 := by
    simp [UInt8.lt_iff_toNat_lt, firstValue]
    omega
  -- The second byte rules out shorter forms and surrogates.
  have follows : isSecondOfThree first second = true := by
    simp only [isSecondOfThree, isContinuation_of_toNat secondValue,
      Bool.true_and, Bool.and_eq_true, Bool.or_eq_true, bne_iff_ne, ne_eq,
      decide_eq_true_eq, ← UInt8.toNat_inj, UInt8.le_iff_toNat_le, firstValue,
      secondValue]
    simp
    omega
  have assembled : assemble (first.toNat - 0xE0) [second, third] = char := by
    apply assemble_eq
    simp only [List.foldl_cons, List.foldl_nil, firstValue, secondValue,
      thirdValue]
    omega
  rw [decodeFrom.eq_def]
  simp only [if_neg notOne, if_neg notAlone, if_neg notTwo, if_pos lead,
    follows, isContinuation_of_toNat thirdValue, Bool.not_true,
    Bool.false_eq_true, if_false, if_true, assembled]
  cases decodeFrom (position + 3) rest <;> rfl

theorem decodeFrom_four
    (firstValue : first.toNat = char.toNat / 262144 % 8 + 0xF0)
    (secondValue : second.toNat = char.toNat / 4096 % 64 + 0x80)
    (thirdValue : third.toNat = char.toNat / 64 % 64 + 0x80)
    (fourthValue : fourth.toNat = char.toNat % 64 + 0x80)
    (large : 0xFFFF < char.toNat) :
    decodeFrom position (first :: second :: third :: fourth :: rest) =
      (decodeFrom (position + 4) rest).map (char :: ·) := by
  have inside : char.toNat < 0x110000 := by
    have valid := char.valid
    simp only [UInt32.isValidChar, Nat.isValidChar] at valid
    change char.val.toNat < 0x110000
    omega
  have notOne : ¬ first < 0x80 := by
    simp [UInt8.lt_iff_toNat_lt, firstValue]
  have notAlone : ¬ first < 0xC2 := by
    simp [UInt8.lt_iff_toNat_lt, firstValue]
  have notTwo : ¬ first < 0xE0 := by
    simp [UInt8.lt_iff_toNat_lt, firstValue]
  have notThree : ¬ first < 0xF0 := by
    simp [UInt8.lt_iff_toNat_lt, firstValue]
  have lead : first < 0xF5 := by
    simp [UInt8.lt_iff_toNat_lt, firstValue]
    omega
  -- The second byte rules out shorter forms and the end of the code space.
  have follows : isSecondOfFour first second = true := by
    simp only [isSecondOfFour, isContinuation_of_toNat secondValue,
      Bool.true_and, Bool.and_eq_true, Bool.or_eq_true, bne_iff_ne, ne_eq,
      decide_eq_true_eq, ← UInt8.toNat_inj, UInt8.le_iff_toNat_le, firstValue,
      secondValue]
    simp
    omega
  have assembled :
      assemble (first.toNat - 0xF0) [second, third, fourth] = char := by
    apply assemble_eq
    simp only [List.foldl_cons, List.foldl_nil, firstValue, secondValue,
      thirdValue, fourthValue]
    omega
  rw [decodeFrom.eq_def]
  simp only [if_neg notOne, if_neg notAlone, if_neg notTwo, if_neg notThree,
    if_pos lead, follows, isContinuation_of_toNat thirdValue,
    isContinuation_of_toNat fourthValue, Bool.not_true, Bool.false_eq_true,
    if_false, if_true, assembled]
  cases decodeFrom (position + 4) rest <;> rfl

end Sequences

/-- The bytes of a character are decoded to it, and decoding goes on behind
them. -/
theorem decodeFrom_utf8EncodeChar (position : Nat) (char : Char)
    (rest : List UInt8) :
    ∃ next, decodeFrom position (String.utf8EncodeChar char ++ rest) =
      (decodeFrom next rest).map (char :: ·) := by
  have number : char.val.toNat = char.toNat := rfl
  simp only [String.utf8EncodeChar, number]
  split
  next small =>
    exact ⟨_, decodeFrom_one (toNat_byte (by omega)) small⟩
  next large =>
    split
    next small =>
      exact ⟨_, decodeFrom_two (toNat_byte (by omega)) (toNat_byte (by omega))
        (by omega) small⟩
    next large =>
      split
      next small =>
        exact ⟨_, decodeFrom_three (toNat_byte (by omega))
          (toNat_byte (by omega)) (toNat_byte (by omega)) (by omega) small⟩
      next large =>
        exact ⟨_, decodeFrom_four (toNat_byte (by omega))
          (toNat_byte (by omega)) (toNat_byte (by omega))
          (toNat_byte (by omega)) (by omega)⟩

theorem decode_encodeChars (chars : List Char) :
    decode (encodeChars chars) = .ok chars := by
  have anywhere (position : Nat) :
      decodeFrom position (encodeChars chars) = .ok chars := by
    induction chars generalizing position with
    | nil => rfl
    | cons char chars ih =>
        obtain ⟨next, step⟩ :=
          decodeFrom_utf8EncodeChar position char (encodeChars chars)
        have unfolded : encodeChars (char :: chars) =
            String.utf8EncodeChar char ++ encodeChars chars :=
          List.flatMap_cons
        rw [unfolded, step, ih next]
        rfl
  exact anywhere 0

theorem toNat_assemble {leadBits : Nat} (bytes : List UInt8) (number : Nat)
    (spells : bytes.foldl (fun bits byte => bits * 64 + (byte.toNat - 0x80))
      leadBits = number) (valid : number.isValidChar) :
    (assemble leadBits bytes).val.toNat = number := by
  rw [assemble, spells, Char.ofNat, dif_pos valid]
  rfl

theorem ofNat_eq {number : Nat} (byte : UInt8) (value : number = byte.toNat) :
    UInt8.ofNat number = byte := by
  rw [value, UInt8.ofNat_toNat]

theorem isContinuation_iff {byte : UInt8} :
    isContinuation byte = true ↔ 0x80 ≤ byte.toNat ∧ byte.toNat ≤ 0xBF := by
  simp only [isContinuation, Bool.and_eq_true, decide_eq_true_eq,
    UInt8.le_iff_toNat_le]
  exact Iff.rfl

section Characters

variable {first second third fourth : UInt8}

theorem utf8EncodeChar_one (small : first < 0x80) :
    String.utf8EncodeChar (Char.ofNat first.toNat) = [first] := by
  have below : first.toNat < 0x80 := UInt8.lt_iff_toNat_lt.mp small
  have number : (Char.ofNat first.toNat).val.toNat = first.toNat :=
    toNat_assemble [] first.toNat rfl (.inl (by omega))
  simp only [String.utf8EncodeChar, number]
  rw [if_pos (by omega), UInt8.ofNat_toNat]

theorem utf8EncodeChar_two (atLeast : 0xC2 ≤ first.toNat)
    (below : first.toNat < 0xE0) (continues : isContinuation second = true) :
    String.utf8EncodeChar (assemble (first.toNat - 0xC0) [second]) =
      [first, second] := by
  rw [isContinuation_iff] at continues
  have number := toNat_assemble [second]
    ((first.toNat - 0xC0) * 64 + (second.toNat - 0x80)) rfl
    (.inl (by omega))
  simp only [String.utf8EncodeChar, number]
  rw [if_neg (by omega), if_pos (by omega),
    ofNat_eq first (by omega),
    ofNat_eq second (by omega)]

theorem utf8EncodeChar_three (atLeast : 0xE0 ≤ first.toNat)
    (below : first.toNat < 0xF0)
    (follows : isSecondOfThree first second = true)
    (continues : isContinuation third = true) :
    String.utf8EncodeChar (assemble (first.toNat - 0xE0) [second, third]) =
      [first, second, third] := by
  simp only [isSecondOfThree, Bool.and_eq_true, Bool.or_eq_true, bne_iff_ne,
    ne_eq, decide_eq_true_eq, ← UInt8.toNat_inj, UInt8.le_iff_toNat_le,
    isContinuation_iff, UInt8.reduceToNat] at follows continues
  have number := toNat_assemble [second, third]
    (((first.toNat - 0xE0) * 64 + (second.toNat - 0x80)) * 64 +
      (third.toNat - 0x80)) rfl
    (by rw [Nat.isValidChar]; omega)
  simp only [String.utf8EncodeChar, number]
  rw [if_neg (by omega), if_neg (by omega), if_pos (by omega),
    ofNat_eq first (by omega),
    ofNat_eq second (by omega),
    ofNat_eq third (by omega)]

theorem utf8EncodeChar_four (atLeast : 0xF0 ≤ first.toNat)
    (below : first.toNat < 0xF5)
    (follows : isSecondOfFour first second = true)
    (thirdContinues : isContinuation third = true)
    (fourthContinues : isContinuation fourth = true) :
    String.utf8EncodeChar
        (assemble (first.toNat - 0xF0) [second, third, fourth]) =
      [first, second, third, fourth] := by
  simp only [isSecondOfFour, Bool.and_eq_true, Bool.or_eq_true, bne_iff_ne,
    ne_eq, decide_eq_true_eq, ← UInt8.toNat_inj, UInt8.le_iff_toNat_le,
    isContinuation_iff, UInt8.reduceToNat]
    at follows thirdContinues fourthContinues
  have number := toNat_assemble [second, third, fourth]
    ((((first.toNat - 0xF0) * 64 + (second.toNat - 0x80)) * 64 +
      (third.toNat - 0x80)) * 64 + (fourth.toNat - 0x80)) rfl
    (by rw [Nat.isValidChar]; omega)
  simp only [String.utf8EncodeChar, number]
  rw [if_neg (by omega), if_neg (by omega), if_neg (by omega),
    ofNat_eq first (by omega),
    ofNat_eq second (by omega),
    ofNat_eq third (by omega),
    ofNat_eq fourth (by omega)]

end Characters

/-- What is decoded is what the bytes encode. -/
theorem eq_encodeChars_of_decodeFrom {position : Nat} {bytes : List UInt8}
    {chars : List Char} (decoded : decodeFrom position bytes = .ok chars) :
    bytes = encodeChars chars := by
  fun_induction decodeFrom position bytes generalizing chars with
  | case1 =>
      cases decoded
      rfl
  | case2 position first rest small ih =>
      obtain ⟨others, later, ⟨⟩⟩ := exists_of_bind_eq_ok decoded
      rw [encodeChars, List.flatMap_cons, utf8EncodeChar_one small, ih later]
      rfl
  | case5 position first _ notAlone lead second rest continues ih =>
      obtain ⟨others, later, ⟨⟩⟩ := exists_of_bind_eq_ok decoded
      rw [encodeChars, List.flatMap_cons, utf8EncodeChar_two
        (UInt8.le_iff_toNat_le.mp (UInt8.not_lt.mp notAlone))
        (UInt8.lt_iff_toNat_lt.mp lead) continues, ih later]
      rfl
  | case10 position first _ _ notTwo lead second follows third rest
      continues ih =>
      obtain ⟨others, later, ⟨⟩⟩ := exists_of_bind_eq_ok decoded
      rw [encodeChars, List.flatMap_cons, utf8EncodeChar_three
        (UInt8.le_iff_toNat_le.mp (UInt8.not_lt.mp notTwo))
        (UInt8.lt_iff_toNat_lt.mp lead) (by simpa using follows) continues,
        ih later]
      rfl
  | case17 position first _ _ _ notThree lead second follows third
      thirdContinues fourth rest fourthContinues ih =>
      obtain ⟨others, later, ⟨⟩⟩ := exists_of_bind_eq_ok decoded
      rw [encodeChars, List.flatMap_cons, utf8EncodeChar_four
        (UInt8.le_iff_toNat_le.mp (UInt8.not_lt.mp notThree))
        (UInt8.lt_iff_toNat_lt.mp lead) (by simpa using follows)
        (by simpa using thirdContinues) fourthContinues, ih later]
      rfl
  | _ => cases decoded

/-- Bytes are decoded just if they encode characters. -/
theorem decode_eq_ok_iff {bytes : List UInt8} {chars : List Char} :
    decode bytes = .ok chars ↔ bytes = encodeChars chars := by
  refine ⟨eq_encodeChars_of_decodeFrom, ?_⟩
  rintro rfl
  exact decode_encodeChars chars

theorem firstSurrogates?_ofChars (chars : List Char) :
    firstSurrogates? (Text.ofChars chars) = none := by
  simp only [firstSurrogates?]
  split
  · rfl
  · next first rest left =>
      rw [List.dropWhile_eq_nil_iff.mpr (by simp [Text.ofChars])] at left
      cases left

/-- A text that holds no surrogate is one of characters only. -/
theorem eq_ofChars_of_firstSurrogates? {text : Text}
    (none : firstSurrogates? text = none) :
    text = Text.ofChars (text.filterMap fun
      | .scalar char => some char
      | .surrogate _ => Option.none) := by
  simp only [firstSurrogates?] at none
  split at none
  · next scalars =>
      rw [List.dropWhile_eq_nil_iff] at scalars
      clear none
      induction text with
      | nil => rfl
      | cons point rest ih =>
          cases point with
          | scalar char =>
              have later := ih fun point member =>
                scalars point (List.mem_cons_of_mem _ member)
              exact congrArg (CodePoint.scalar char :: ·) later
          | surrogate offset => exact absurd (scalars _ List.mem_cons_self) nofun
  · cases none

/-- A text has an encoding just if it is one of characters only. -/
theorem encode_eq_ok_iff {text : Text} {bytes : List UInt8} :
    encode text = .ok bytes ↔
      ∃ chars, text = Text.ofChars chars ∧ bytes = encodeChars chars := by
  constructor
  · intro encoded
    simp only [encode] at encoded
    split at encoded
    · cases encoded
    · next none =>
        cases encoded
        exact ⟨_, eq_ofChars_of_firstSurrogates? none, rfl⟩
  · rintro ⟨chars, rfl, rfl⟩
    rw [encode, firstSurrogates?_ofChars, Text.ofChars, List.filterMap_map]
    exact congrArg (Except.ok ∘ encodeChars) List.filterMap_some

end Utf8

end VestingContract
