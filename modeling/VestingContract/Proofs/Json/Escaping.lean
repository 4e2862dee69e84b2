import Mathlib.Tactic.IntervalCases
import VestingContract.Json.Writer
import VestingContract.Proofs.Json.Spelling
import VestingContract.Proofs.Number.FixedWidth
import VestingContract.Proofs.Text.LineEnds

/-!
# Escaped texts

A text is written between quote marks in printable ASCII.  A character without
a letter behind a backslash and outside of that range is written by its number
in four hexadecimal digits, or as the two halves of a surrogate pair, so that
what is written spells the text whatever characters it holds.
-/

namespace VestingContract

theorem Text.ofChars_append (chars others : List Char) :
    ofChars (chars ++ others) = ofChars chars ++ ofChars others :=
  List.map_append

theorem toNat_lt_codeSpace (char : Char) : char.toNat < 0x110000 := by
  rcases char.valid with small | ⟨-, large⟩
  · exact lt_trans small (by decide)
  · exact large

namespace Json

/-- Characters of printable ASCII. -/
def IsPrintable (chars : List Char) : Prop :=
  ∀ char ∈ chars, (CodePoint.scalar char).isAsciiPrintable = true

instance : DecidablePred IsPrintable := fun chars =>
  List.decidableBAll _ chars

theorem isPrintable_append_iff {chars others : List Char} :
    IsPrintable (chars ++ others) ↔ IsPrintable chars ∧ IsPrintable others :=
  List.forall_mem_append

theorem all_of_isPrintable {chars : List Char}
    (printable : IsPrintable chars) :
    (Text.ofChars chars).all CodePoint.isAsciiPrintable = true := by
  rw [Text.ofChars, List.all_map, List.all_eq_true]
  exact printable

section Units

theorem isPrintable_digitChar {value : Nat} (less : value < 16) :
    (CodePoint.scalar (Nat.digitChar value)).isAsciiPrintable = true := by
  interval_cases value <;> decide

theorem digitChar_mem_hexDigits {value : Nat} (less : value < 16) :
    (Nat.digitChar value, value) ∈ hexDigits := by
  interval_cases value <;> decide

theorem ofHex_one {number : Nat} (less : number < 16) :
    Text.ofHex 1 number = Text.ofChars [Nat.digitChar number] := by
  rw [Text.ofHex, Nat.toDigits_of_lt_base less]
  rfl

/-- One digit more, which is the last one. -/
theorem ofHex_succ {width : Nat} (positive : 0 < width) (number : Nat) :
    Text.ofHex (width + 1) number =
      Text.ofHex width (number / 16) ++
        Text.ofChars [Nat.digitChar (number % 16)] :=
  padLeft_toDigits_succ (by decide) positive number

/-- A backslash, a small letter u and the four digits of sixteen bits. -/
def unitSpelling (unit : Nat) : List Char :=
  ['\\', 'u', Nat.digitChar (unit / 16 / 16 / 16),
    Nat.digitChar (unit / 16 / 16 % 16), Nat.digitChar (unit / 16 % 16),
    Nat.digitChar (unit % 16)]

variable {unit : Nat} (small : unit < 0x10000)

include small

theorem unitEscape_eq : unitEscape unit = Text.ofChars (unitSpelling unit) := by
  have first : unit / 16 / 16 / 16 < 16 := by omega
  rw [unitEscape, ofHex_succ (by decide), ofHex_succ (by decide),
    ofHex_succ (by decide), ofHex_one first]
  rfl

theorem spellsUnit_unitSpelling : SpellsUnit unit (unitSpelling unit) := by
  have digits : ∀ value < 16, (Nat.digitChar value, value) ∈ hexDigits :=
    fun _ => digitChar_mem_hexDigits
  have spelled := SpellsUnit.digits
    (digits (unit / 16 / 16 / 16) (by omega))
    (digits (unit / 16 / 16 % 16) (by omega))
    (digits (unit / 16 % 16) (by omega)) (digits (unit % 16) (by omega))
  have number : ((unit / 16 / 16 / 16 * 16 + unit / 16 / 16 % 16) * 16 +
      unit / 16 % 16) * 16 + unit % 16 = unit := by omega
  rwa [number] at spelled

theorem isPrintable_unitSpelling : IsPrintable (unitSpelling unit) := by
  have digits : ∀ value < 16,
      (CodePoint.scalar (Nat.digitChar value)).isAsciiPrintable = true :=
    fun _ => isPrintable_digitChar
  have opening : IsPrintable ['\\', 'u'] := by decide
  refine isPrintable_append_iff.mpr ⟨opening, ?_⟩
  simp only [IsPrintable, List.forall_mem_cons]
  exact ⟨digits _ (by omega), digits _ (by omega), digits _ (by omega),
    digits _ (by omega), List.forall_mem_nil _⟩

end Units

section Texts

/-- What is written for a character spells it. -/
theorem exists_spelling_escaped (char : Char) :
    ∃ spelling, escaped (.scalar char) = Text.ofChars spelling ∧
      SpellsChar char spelling ∧ IsPrintable spelling := by
  have short : ∀ letter, (letter, char) ∈ shortEscapes →
      ∃ spelling, Text.ofChars ['\\', letter] = Text.ofChars spelling ∧
        SpellsChar char spelling ∧ IsPrintable spelling := by
    intro letter isEscape
    have all : (shortEscapes.all fun escape =>
        IsPrintable ['\\', escape.1]) = true := by decide
    have printable := List.all_eq_true.mp all _ isEscape
    exact ⟨_, rfl, .short isEscape, of_decide_eq_true printable⟩
  have value : (CodePoint.scalar char).value = char.toNat := rfl
  have inSpace := toNat_lt_codeSpace char
  unfold escaped
  split
  case h_1 same => cases same; exact short '"' (by decide)
  case h_2 same => cases same; exact short '\\' (by decide)
  case h_3 same => cases same; exact short 'n' (by decide)
  case h_4 same => cases same; exact short 'r' (by decide)
  case h_5 same => cases same; exact short 't' (by decide)
  case h_6 same => cases same; exact short 'f' (by decide)
  case h_7 same => cases same; exact short 'b' (by decide)
  -- What has no letter of its own is told by its number.
  case h_8 noQuote noBackslash _ _ _ _ _ =>
    rw [value]
    dsimp only
    split
    · next range =>
        refine ⟨[char], rfl, .plain range.1 ?_ ?_, ?_⟩
        · rintro rfl
          exact noQuote rfl
        · rintro rfl
          exact noBackslash rfl
        · exact List.forall_mem_singleton.mpr (decide_eq_true range)
    · split
      · next small =>
          exact ⟨_, unitEscape_eq small, .unit (spellsUnit_unitSpelling small),
            isPrintable_unitSpelling small⟩
      · next large =>
          have high : 0xD800 + (char.toNat - 0x10000) / 0x400 < 0x10000 := by
            omega
          have low : 0xDC00 + (char.toNat - 0x10000) % 0x400 < 0x10000 := by
            omega
          rw [unitEscape_eq high, unitEscape_eq low, ← Text.ofChars_append]
          exact ⟨_, rfl,
            .pair (Nat.le_of_not_lt large) (spellsUnit_unitSpelling high)
              (spellsUnit_unitSpelling low),
            isPrintable_append_iff.mpr ⟨isPrintable_unitSpelling high,
              isPrintable_unitSpelling low⟩⟩

theorem exists_spelling_flatMap_escaped (content : List Char) :
    ∃ spelling, (Text.ofChars content).flatMap escaped =
        Text.ofChars spelling ∧
      SpellsChars content spelling ∧ IsPrintable spelling := by
  induction content with
  | nil => exact ⟨[], rfl, .nil, List.forall_mem_nil _⟩
  | cons char content ih =>
      obtain ⟨first, firstWritten, firstSpelled, firstPrintable⟩ :=
        exists_spelling_escaped char
      obtain ⟨rest, written, spelled, printable⟩ := ih
      refine ⟨first ++ rest, ?_, .cons firstSpelled spelled,
        isPrintable_append_iff.mpr ⟨firstPrintable, printable⟩⟩
      rw [Text.ofChars_append, ← firstWritten, ← written]
      rfl

/-- What is written for a text spells it. -/
theorem exists_spelling_writeText (content : List Char) :
    ∃ spelling, writeText (Text.ofChars content) = Text.ofChars spelling ∧
      SpellsLexeme (.text (Text.ofChars content)) spelling ∧
      IsPrintable spelling := by
  obtain ⟨spelling, written, spelled, printable⟩ :=
    exists_spelling_flatMap_escaped content
  have quote : IsPrintable ['"'] := by decide
  refine ⟨'"' :: (spelling ++ ['"']), ?_, .text spelled, ?_⟩
  · rw [writeText, written]
    simp [Text.ofChars]
  · exact isPrintable_append_iff.mpr
      ⟨quote, isPrintable_append_iff.mpr ⟨printable, quote⟩⟩

end Texts

end Json

end VestingContract
