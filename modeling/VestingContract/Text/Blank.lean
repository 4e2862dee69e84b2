import VestingContract.Text.CodePoint

/-!
# Blank text

The white-space code points of the Unicode character database together with
the four separator controls, and texts that hold nothing else.
-/

namespace VestingContract

/-- White space in the widest sense: Unicode spaces, line and paragraph
separators, and the control characters that separate fields and lines. -/
def CodePoint.isBlank (codePoint : CodePoint) : Bool :=
  let number := codePoint.value
  (0x09 ≤ number && number ≤ 0x0D) || (0x1C ≤ number && number ≤ 0x20) ||
    number == 0x85 || number == 0xA0 || number == 0x1680 ||
    (0x2000 ≤ number && number ≤ 0x200A) ||
    number == 0x2028 || number == 0x2029 || number == 0x202F ||
    number == 0x205F || number == 0x3000

/-- Every character that core counts as white space is blank. -/
theorem CodePoint.isBlank_of_isWhitespace (char : Char)
    (whitespace : char.isWhitespace = true) :
    (CodePoint.scalar char).isBlank = true := by
  simp only [Char.isWhitespace, Bool.or_eq_true, decide_eq_true_eq]
    at whitespace
  rcases whitespace with ((rfl | rfl) | rfl) | rfl <;> decide

namespace Text

/-- A text that holds white space only; the empty text is blank. -/
def isBlank (text : Text) : Bool :=
  text.all CodePoint.isBlank

/-- A text without the white space at its two ends. -/
def trim (text : Text) : Text :=
  ((text.dropWhile CodePoint.isBlank).reverse.dropWhile
    CodePoint.isBlank).reverse

end Text
end VestingContract
