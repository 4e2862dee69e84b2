import Mathlib.Algebra.Group.Nat.Even
import Mathlib.Data.List.Induction
import VestingContract.Proofs.Text.LineEnds

/-!
# Text literals

A literal stands between double quote marks.  A backslash in it takes the code
point behind it along, whatever that is, so that a quote mark behind a
backslash does not close the literal.  A text without quote marks is therefore
the content of a closed literal just if the number of the backslashes at its
end is even.
-/

namespace VestingContract

namespace Text

def doubleQuote : CodePoint := .scalar '"'

def backslash : CodePoint := .scalar '\\'

/-- What may stand between the quote marks of a literal: code points that
stand for themselves, and backslashes with any code point behind them. -/
inductive IsLiteralContent : Text → Prop where
  | nil : IsLiteralContent []
  | plain {codePoint : CodePoint} {rest : Text}
      (noQuote : codePoint ≠ doubleQuote) (noEscape : codePoint ≠ backslash)
      (later : IsLiteralContent rest) : IsLiteralContent (codePoint :: rest)
  | escaped (codePoint : CodePoint) {rest : Text}
      (later : IsLiteralContent rest) :
      IsLiteralContent (backslash :: codePoint :: rest)

/-- A text as it stands between quote marks. -/
def between (content : Text) : Text :=
  doubleQuote :: (content ++ [doubleQuote])

/-- A literal that is closed by its last quote mark. -/
def IsLiteral (literal : Text) : Prop :=
  ∃ content, IsLiteralContent content ∧ literal = content.between

/-- The number of backslashes at the end of a text. -/
def finalBackslashes (text : Text) : Nat :=
  (text.reverse.takeWhile (· = backslash)).length

section Backslashes

variable {codePoint : CodePoint} {text : Text}

theorem finalBackslashes_cons :
    finalBackslashes (codePoint :: text) =
      if finalBackslashes text = text.length ∧ codePoint = backslash then
        text.length + 1
      else finalBackslashes text := by
  simp only [finalBackslashes, List.reverse_cons, List.takeWhile_append,
    List.length_reverse]
  by_cases all :
      (text.reverse.takeWhile (· = backslash)).length = text.length
  · by_cases same : codePoint = backslash <;> simp [all, same]
  · simp [all]

/-- A backslash takes the code point behind it along, which keeps the parity of
the backslashes at the end. -/
theorem even_finalBackslashes_escaped :
    Even (finalBackslashes (backslash :: codePoint :: text)) ↔
      Even (finalBackslashes text) := by
  rw [finalBackslashes_cons, finalBackslashes_cons]
  by_cases all : finalBackslashes text = text.length
  · by_cases same : codePoint = backslash
    · simp [all, same, Nat.even_add_one]
    · simp [all, same]
  · have atMost : finalBackslashes text ≤ text.length := by
      rw [finalBackslashes, ← text.length_reverse]
      exact (List.takeWhile_sublist _).length_le
    have fewer : finalBackslashes text ≠ text.length + 1 := by omega
    simp [all, fewer]

end Backslashes

/-- Only a backslash that begins the content takes the next code point along. -/
theorem isLiteralContent_cons_iff {first : CodePoint} {text : Text}
    (noQuote : first ≠ doubleQuote) (noEscape : first ≠ backslash) :
    IsLiteralContent (first :: text) ↔ IsLiteralContent text := by
  constructor
  · intro content
    cases content with
    | plain _ _ later => exact later
    | escaped => exact absurd rfl noEscape
  · exact .plain noQuote noEscape

theorem isLiteralContent_escaped_iff {codePoint : CodePoint} {text : Text} :
    IsLiteralContent (backslash :: codePoint :: text) ↔
      IsLiteralContent text := by
  constructor
  · intro content
    cases content with
    | plain _ noEscape => exact absurd rfl noEscape
    | escaped _ later => exact later
  · exact .escaped codePoint

/-- A text without quote marks is the content of a closed literal just if the
backslashes at its end come in pairs. -/
theorem isLiteralContent_iff {text : Text} (noQuotes : doubleQuote ∉ text) :
    IsLiteralContent text ↔ Even text.finalBackslashes := by
  -- A backslash takes two code points away at once.
  induction text using List.twoStepInduction with
  | nil => exact ⟨fun _ => by simp [finalBackslashes], fun _ => .nil⟩
  | singleton first =>
      have noQuote : first ≠ doubleQuote := by simpa [eq_comm] using noQuotes
      by_cases isEscape : first = backslash
      · subst isEscape
        constructor
        · intro content
          cases content with
          | plain _ noEscape => exact absurd rfl noEscape
        · intro even
          exact absurd even (by decide)
      · have none : finalBackslashes [first] = 0 := by
          simp [finalBackslashes, isEscape]
        simp [none, IsLiteralContent.plain noQuote isEscape .nil]
  | cons_cons first second text ih later =>
      simp only [List.mem_cons, not_or] at noQuotes later
      by_cases isEscape : first = backslash
      · subst isEscape
        rw [isLiteralContent_escaped_iff, even_finalBackslashes_escaped]
        exact ih noQuotes.2.2
      · have same : finalBackslashes (first :: second :: text) =
            finalBackslashes (second :: text) := by
          rw [finalBackslashes_cons, if_neg fun both => isEscape both.2]
        rw [isLiteralContent_cons_iff (Ne.symm noQuotes.1) isEscape, same]
        exact later second noQuotes.2

end Text

end VestingContract
