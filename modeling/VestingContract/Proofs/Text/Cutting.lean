import Mathlib.Data.List.Infix
import VestingContract.Text.CodePoint

/-!
# Cutting texts

A text that was put together from parts is cut into the same parts again: at
line ends, at the first occurrence of a separator, and between an opening and
a closing.  Each cut undoes the matching concatenation as long as the parts
do not hold what the cut looks for.
-/

namespace VestingContract

namespace Text

/-- The line feed that ends a line. -/
def lineFeed : CodePoint := .scalar '\n'

/-- Lines one after the other, each with a line feed behind it. -/
def ofLines (lines : List Text) : Text :=
  lines.flatMap (· ++ [lineFeed])

/-- The text between an opening and a closing. -/
def between? (opening closing text : Text) : Option Text :=
  let inner := text.drop opening.length
  let content := inner.take (inner.length - closing.length)
  if text = opening ++ content ++ closing then some content else none

/-- The texts before and behind the first occurrence of a separator. -/
def cut? (separator : Text) : Text → Option (Text × Text)
  | [] => none
  | head :: tail =>
      if separator.isPrefixOf (head :: tail) then
        some ([], (head :: tail).drop separator.length)
      else
        (cut? separator tail).map fun parts => (head :: parts.1, parts.2)

/-- The number that decimal digits spell. -/
def toNat? (text : Text) : Option Nat := do
  let digits ← text.toChars?
  if digits.isEmpty ∨ digits.any (!·.isDigit) then none
  else some (Nat.ofDigitChars 10 digits 0)

theorem splitOn_append_cons (separator : CodePoint) {part : Text}
    (free : separator ∉ part) (rest : Text) :
    splitOn separator (part ++ separator :: rest) =
      part :: splitOn separator rest := by
  induction part with
  | nil => simp [splitOn]
  | cons head tail ih =>
      simp only [List.mem_cons, not_or] at free
      have headOther : head ≠ separator := fun equal => free.1 equal.symm
      simp only [List.cons_append, splitOn, if_neg headOther, ih free.2]

/-- Splitting at line feeds recovers lines, with an empty part at the end. -/
theorem splitOn_ofLines {lines : List Text}
    (free : ∀ line ∈ lines, lineFeed ∉ line) :
    splitOn lineFeed (ofLines lines) = lines ++ [[]] := by
  induction lines with
  | nil => rfl
  | cons line lines ih =>
      have tailFree : ∀ line ∈ lines, lineFeed ∉ line :=
        fun other member => free other (List.mem_cons_of_mem line member)
      have unfolded : ofLines (line :: lines) =
          line ++ lineFeed :: ofLines lines := by
        simp [ofLines]
      rw [unfolded, splitOn_append_cons lineFeed (free line (by simp)),
        ih tailFree, List.cons_append]

@[simp]
theorem between?_append (opening content closing : Text) :
    between? opening closing (opening ++ content ++ closing) =
      some content := by
  simp [between?]

theorem between?_eq_none {opening text : Text} (closing : Text)
    (differs : ¬ opening <+: text) :
    between? opening closing text = none := by
  simp only [between?, ite_eq_right_iff]
  intro equal
  refine absurd ?_ differs
  rw [equal, List.append_assoc]
  exact List.prefix_append _ _

/-- A separator is found behind a part without its first code point. -/
theorem cut?_append_of_not_mem (separator : Text) {first : CodePoint}
    {part : Text} (begins : separator.head? = some first)
    (free : first ∉ part) (rest : Text) :
    cut? separator (part ++ separator ++ rest) = some (part, rest) := by
  obtain ⟨others, rfl⟩ := List.head?_eq_some_iff.mp begins
  induction part with
  | nil => simp [cut?]
  | cons head tail ih =>
      simp only [List.mem_cons, not_or] at free
      have noPrefix : (first :: others).isPrefixOf
          (head :: (tail ++ (first :: others) ++ rest)) = false := by
        simp [List.isPrefixOf, free.1]
      rw [List.cons_append, List.cons_append, cut?, noPrefix, ih free.2]
      rfl

/-- A separator of two different code points is found behind a part that does
not hold it, even if the part ends in the first of them. -/
theorem cut?_append_of_not_infix {first second : CodePoint} {part : Text}
    (different : first ≠ second) (free : ¬ [first, second] <:+: part)
    (rest : Text) :
    cut? [first, second] (part ++ [first, second] ++ rest) =
      some (part, rest) := by
  induction part with
  | nil => simp [cut?]
  | cons head tail ih =>
      have tailFree : ¬ [first, second] <:+: tail := fun inside =>
        free (inside.trans (List.suffix_cons head tail).isInfix)
      have noPrefix : List.isPrefixOf [first, second]
          (head :: (tail ++ [first, second] ++ rest)) = false := by
        rw [Bool.eq_false_iff]
        intro begins
        -- The occurrence would lie inside the part, or reach into the
        -- separator, whose first code point is not the second one.
        cases tail with
        | nil => simp [List.isPrefixOf, different.symm] at begins
        | cons next tail =>
            simp only [List.isPrefixOf, List.cons_append, Bool.and_eq_true,
              beq_iff_eq] at begins
            obtain ⟨headEq, nextEq, -⟩ := begins
            refine free (List.IsPrefix.isInfix ⟨tail, ?_⟩)
            simp [headEq, nextEq]
      rw [List.cons_append, List.cons_append, cut?, noPrefix, ih tailFree]
      rfl

@[simp]
theorem toNat?_ofNat (number : Nat) :
    toNat? (ofNat number) = some number := by
  have allDigits : ∀ char ∈ Nat.toDigits 10 number, char.isDigit = true :=
    fun char member =>
      Nat.isDigit_of_mem_toDigits (by decide) (by decide) member
  simpa [toNat?, ofNat, Nat.toDigits_ne_nil,
    Nat.ofDigitChars_ten_toDigits] using allDigits

theorem lineFeed_not_mem_ofNat (number : Nat) :
    lineFeed ∉ ofNat number := by
  simp only [ofNat, ofChars, lineFeed, List.mem_map, not_exists, not_and]
  intro char member equal
  have digit : char.isDigit = true :=
    Nat.isDigit_of_mem_toDigits (by decide) (by decide) member
  rw [CodePoint.scalar.inj equal] at digit
  exact absurd digit (by decide)

/-- Outside its separators a joined text holds what its parts hold. -/
theorem not_mem_join_iff {codePoint : CodePoint} {separator : Text}
    {parts : List Text} (ofSeparator : codePoint ∉ separator) :
    codePoint ∉ join separator parts ↔
      ∀ part ∈ parts, codePoint ∉ part := by
  rw [join]
  induction parts with
  | nil => simp
  | cons part parts ih =>
      by_cases last : parts = []
      · simp [last]
      · rw [List.intercalate_cons_of_ne_nil last]
        simp [ofSeparator, ih]

/-- What neither the separator nor a part holds is not in a joined text. -/
theorem not_mem_join {codePoint : CodePoint} {separator : Text}
    {parts : List Text} (ofSeparator : codePoint ∉ separator)
    (ofParts : ∀ part ∈ parts, codePoint ∉ part) :
    codePoint ∉ join separator parts :=
  (not_mem_join_iff ofSeparator).mpr ofParts

end Text

end VestingContract
