import VestingContract.Config.Check
import VestingContract.Proofs.Text.Cutting

/-!
# Identifiers

The language of identifiers, told by its letters, and the texts that pass for
names in a configuration.  These are the identifiers and, beside them, every
identifier with a single line feed behind it.
-/

namespace VestingContract

/-- A letter, an underscore or a dollar sign. -/
def CodePoint.IsNameLetter (codePoint : CodePoint) : Prop :=
  ∃ char : Char, codePoint = .scalar char ∧
    ('A' ≤ char ∧ char ≤ 'Z' ∨ 'a' ≤ char ∧ char ≤ 'z' ∨ char = '_' ∨
      char = '$')

/-- A decimal digit. -/
def CodePoint.IsNameDigit (codePoint : CodePoint) : Prop :=
  ∃ char : Char, codePoint = .scalar char ∧ '0' ≤ char ∧ char ≤ '9'

/-- A letter, underscore or dollar sign, and behind it any number of these and
of digits. -/
inductive Text.IsIdentifier : Text → Prop where
  | intro {first : CodePoint} {rest : Text} (begins : first.IsNameLetter)
      (continues : ∀ codePoint ∈ rest,
        codePoint.IsNameLetter ∨ codePoint.IsNameDigit) :
      IsIdentifier (first :: rest)

/-- What passes for a name: an identifier, on demand with a line feed behind
it. -/
def Text.IsNameLine (text : Text) : Prop :=
  ∃ name : Text, name.IsIdentifier ∧
    (text = name ∨ text = name ++ [Text.lineFeed])

namespace CodePoint

theorem isAlpha_iff {char : Char} : char.isAlpha = true ↔
    'A' ≤ char ∧ char ≤ 'Z' ∨ 'a' ≤ char ∧ char ≤ 'z' := by
  have ranges : char.isAlpha = (decide ('A' ≤ char ∧ char ≤ 'Z') ||
      (decide ('a' ≤ char) && decide (char ≤ 'z'))) := rfl
  simp only [ranges, Bool.or_eq_true, Bool.and_eq_true, decide_eq_true_eq]

theorem startsIdentifier_iff {codePoint : CodePoint} :
    codePoint.startsIdentifier = true ↔ codePoint.IsNameLetter := by
  cases codePoint with
  | surrogate offset => simp [startsIdentifier, IsNameLetter]
  | scalar char =>
      simp only [startsIdentifier, IsNameLetter, isAlpha_iff,
        Bool.or_eq_true, beq_iff_eq, scalar.injEq, exists_eq_left',
        or_assoc]

theorem continuesIdentifier_iff {codePoint : CodePoint} :
    codePoint.continuesIdentifier = true ↔
      codePoint.IsNameLetter ∨ codePoint.IsNameDigit := by
  cases codePoint with
  | surrogate offset =>
      simp [continuesIdentifier, IsNameLetter, IsNameDigit]
  | scalar char =>
      rw [← startsIdentifier_iff]
      simp only [continuesIdentifier, startsIdentifier, IsNameDigit,
        Char.isAlphanum, Char.isDigit, Bool.or_eq_true, Bool.and_eq_true,
        decide_eq_true_eq, beq_iff_eq, scalar.injEq, exists_eq_left',
        Char.le_def]
      tauto

theorem not_isNameLetter_lineFeed : ¬ Text.lineFeed.IsNameLetter := by
  rw [← startsIdentifier_iff]
  decide

theorem not_isNameDigit_lineFeed : ¬ Text.lineFeed.IsNameDigit := by
  rintro ⟨char, same, atLeast, -⟩
  cases same
  exact absurd atLeast (by decide)

end CodePoint

namespace Text

theorem IsIdentifier.lineFeed_not_mem {text : Text}
    (identifier : text.IsIdentifier) : lineFeed ∉ text := by
  obtain ⟨begins, continues⟩ := identifier
  intro member
  rcases List.mem_cons.mp member with rfl | member
  · exact CodePoint.not_isNameLetter_lineFeed begins
  · rcases continues _ member with isLetter | isDigit
    · exact CodePoint.not_isNameLetter_lineFeed isLetter
    · exact CodePoint.not_isNameDigit_lineFeed isDigit

theorem isIdentifier_iff {text : Text} :
    text.IsIdentifier ↔ ∃ first rest, text = first :: rest ∧
      first.startsIdentifier = true ∧
      rest.all CodePoint.continuesIdentifier = true := by
  simp only [List.all_eq_true, CodePoint.startsIdentifier_iff,
    CodePoint.continuesIdentifier_iff]
  constructor
  · rintro ⟨begins, continues⟩
    exact ⟨_, _, rfl, begins, continues⟩
  · rintro ⟨first, rest, rfl, begins, continues⟩
    exact ⟨begins, continues⟩

theorem withoutFinalNewline_concat (name : Text) :
    (name ++ [lineFeed]).withoutFinalNewline = name := by
  simp [withoutFinalNewline, lineFeed]

theorem withoutFinalNewline_cases (text : Text) :
    text = text.withoutFinalNewline ∨
      text = text.withoutFinalNewline ++ [lineFeed] := by
  rw [withoutFinalNewline]
  split
  · next last =>
      obtain ⟨front, rfl⟩ := List.getLast?_eq_some_iff.mp last
      exact .inr (by simp [lineFeed])
  · exact .inl rfl

theorem isIdentifierLine_iff {text : Text} :
    text.isIdentifierLine = true ↔ text.IsNameLine := by
  have matched : text.isIdentifierLine = true ↔
      text.withoutFinalNewline.IsIdentifier := by
    rw [isIdentifierLine, isIdentifier_iff]
    cases text.withoutFinalNewline <;> simp
  rw [matched]
  constructor
  · intro identifier
    exact ⟨_, identifier, text.withoutFinalNewline_cases⟩
  · rintro ⟨name, identifier, rfl | rfl⟩
    · -- A name without a line feed has none at its end.
      have noNewline := identifier.lineFeed_not_mem
      rcases text.withoutFinalNewline_cases with same | longer
      · rwa [← same]
      · exact absurd (longer ▸ List.mem_append_right _ List.mem_cons_self)
          noNewline
    · rwa [withoutFinalNewline_concat]

/-- A name is an identifier just if it has no line feed behind it. -/
theorem IsNameLine.isIdentifier_iff {text : Text}
    (isName : text.IsNameLine) : text.IsIdentifier ↔ lineFeed ∉ text := by
  refine ⟨fun identifier => identifier.lineFeed_not_mem, fun noNewline => ?_⟩
  obtain ⟨name, identifier, rfl | rfl⟩ := isName
  · exact identifier
  · exact absurd (List.mem_append_right name List.mem_cons_self) noNewline

end Text

end VestingContract
