import Mathlib.Data.List.Lex
import VestingContract.Proofs.Number.Wholes

/-!
# Numbers of a fixed width

A number that is filled up with zeros on the left takes the same room as all
others of its width.  It is read back from its digits, and it stands in front
of every greater number of its width in the order of dictionaries.
-/

namespace VestingContract

/-- The digits of a number that takes the room of a width. -/
def fixedDigits : Nat → Nat → List Char
  | 0, _ => []
  | width + 1, number =>
      fixedDigits width (number / 10) ++ [Nat.digitChar (number % 10)]

section Digits

variable {base width number : Nat}

/-- One digit more, which is the last one. -/
theorem padLeft_toDigits_succ (large : 1 < base) (positive : 0 < width)
    (number : Nat) :
    Text.padLeft (width + 1) (.scalar '0')
        (Text.ofChars (Nat.toDigits base number)) =
      Text.padLeft width (.scalar '0')
          (Text.ofChars (Nat.toDigits base (number / base))) ++
        Text.ofChars [Nat.digitChar (number % base)] := by
  rcases Nat.lt_or_ge number base with less | atLeast
  · obtain ⟨before, rfl⟩ := Nat.exists_eq_add_one.mpr positive
    have zero : Nat.toDigits base 0 = ['0'] :=
      Nat.toDigits_of_lt_base (Nat.zero_lt_of_lt less)
    rw [Nat.div_eq_of_lt less, Nat.mod_eq_of_lt less,
      Nat.toDigits_of_lt_base less, zero]
    simp [Text.padLeft, Text.ofChars, List.replicate_succ']
  · rw [Nat.toDigits_of_base_le large atLeast]
    simp [Text.padLeft, Text.ofChars, List.append_assoc]

theorem padLeft_ofNat (positive : 0 < width) (less : number < 10 ^ width) :
    Text.padLeft width (.scalar '0') (Text.ofNat number) =
      Text.ofChars (fixedDigits width number) := by
  induction width, positive using Nat.le_induction generalizing number with
  | base =>
      rw [pow_one] at less
      rw [Text.ofNat, Nat.toDigits_of_lt_base less, fixedDigits,
        Nat.mod_eq_of_lt less]
      rfl
  | succ width positive ih =>
      have lessTens : number / 10 < 10 ^ width := by
        rw [Nat.div_lt_iff_lt_mul (by decide)]
        exact less
      rw [Text.ofNat, padLeft_toDigits_succ (by decide) positive,
        ← Text.ofNat, ih lessTens, fixedDigits]
      exact List.map_append.symm

theorem length_fixedDigits (width number : Nat) :
    (fixedDigits width number).length = width := by
  induction width generalizing number with
  | zero => rfl
  | succ width ih =>
      rw [fixedDigits, List.length_append, ih, List.length_singleton]

theorem isDigit_digitChar : ∀ value < 10,
    Json.isDigit (Nat.digitChar value) = true := by
  decide

theorem isDigit_of_mem_fixedDigits (width number : Nat) :
    ∀ char ∈ fixedDigits width number, Json.isDigit char = true := by
  induction width generalizing number with
  | zero => exact List.forall_mem_nil _
  | succ width ih =>
      rw [fixedDigits, List.forall_mem_append, List.forall_mem_singleton]
      exact ⟨ih _, isDigit_digitChar _ (Nat.mod_lt number (by decide))⟩

/-- A number is read back from its digits. -/
theorem ofDigits_fixedDigits (less : number < 10 ^ width) :
    ofDigits 10 (fixedDigits width number) = number := by
  induction width generalizing number with
  | zero =>
      rw [Nat.lt_one_iff.mp less]
      rfl
  | succ width ih =>
      have lessTens : number / 10 < 10 ^ width := by
        rw [Nat.div_lt_iff_lt_mul (by decide)]
        exact less
      rw [fixedDigits, ofDigits_append, ih lessTens,
        digitValue?_digitChar _ (Nat.mod_lt number (by decide)),
        Option.getD_some, Nat.div_add_mod]

end Digits

section Order

/-- One row of characters stands before another one in the order of
dictionaries. -/
def IsBefore : List Char → List Char → Prop :=
  List.Lex fun char other => char.toNat < other.toNat

variable {chars others : List Char}

theorem IsBefore.behind (before : IsBefore chars others)
    (opening : List Char) : IsBefore (opening ++ chars) (opening ++ others) :=
  List.Lex.append_left _ before opening

/-- What follows rows of the same length makes no difference. -/
theorem IsBefore.append (before : IsBefore chars others)
    (sameLength : chars.length = others.length) (rest later : List Char) :
    IsBefore (chars ++ rest) (others ++ later) := by
  induction before with
  | nil => cases sameLength
  | cons _ ih => exact .cons (ih (Nat.succ.inj sameLength))
  | rel less => exact .rel less

theorem toNat_digitChar_lt : ∀ later < 10, ∀ value < later,
    (Nat.digitChar value).toNat < (Nat.digitChar later).toNat := by
  decide

/-- Numbers of one width stand in their order. -/
theorem isBefore_fixedDigits {width number later : Nat}
    (less : number < later) (bounded : later < 10 ^ width) :
    IsBefore (fixedDigits width number) (fixedDigits width later) := by
  induction width generalizing number later with
  | zero =>
      rw [pow_zero] at bounded
      omega
  | succ width ih =>
      have lessTens : later / 10 < 10 ^ width := by
        rw [Nat.div_lt_iff_lt_mul (by decide)]
        exact bounded
      rw [fixedDigits, fixedDigits]
      -- The last digits decide only if all digits before them are the same.
      rcases Nat.lt_or_ge (number / 10) (later / 10) with before | notBefore
      · apply (ih before lessTens).append
        rw [length_fixedDigits, length_fixedDigits]
      · have sameTens : number / 10 = later / 10 := by omega
        rw [sameTens]
        apply IsBefore.behind
        exact .rel (toNat_digitChar_lt _ (Nat.mod_lt later (by decide)) _
          (by omega))

end Order

end VestingContract
