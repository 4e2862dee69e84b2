import Mathlib.Data.List.TakeWhile
import VestingContract.Proofs.Text.Cutting

/-!
# Lines of texts

Readers differ in what they take for the end of a line: a line feed only, or
other control characters and separators as well.  What is said here holds for
all of them, as long as a line feed is a line end and no printable character of
ASCII is one.
-/

namespace VestingContract

/-- A space or a printable character of ASCII. -/
def CodePoint.isAsciiPrintable (codePoint : CodePoint) : Bool :=
  0x20 ≤ codePoint.value ∧ codePoint.value ≤ 0x7E

/-- The code points that end a line. -/
structure LineEnds where
  isEnd : CodePoint → Bool
  isEnd_lineFeed : isEnd Text.lineFeed = true
  isEnd_printable : ∀ codePoint : CodePoint,
    codePoint.isAsciiPrintable = true → isEnd codePoint = false

namespace LineEnds

/-- Only line feeds end a line. -/
def lineFeeds : LineEnds where
  isEnd codePoint := codePoint = Text.lineFeed
  isEnd_lineFeed := by decide
  isEnd_printable := by
    intro codePoint printable
    refine decide_eq_false ?_
    rintro rfl
    exact absurd printable (by decide)

/-- Line feeds and carriage returns end a line. -/
def feedsAndReturns : LineEnds where
  isEnd codePoint := codePoint = Text.lineFeed ∨ codePoint = .scalar '\r'
  isEnd_lineFeed := by decide
  isEnd_printable := by
    intro codePoint printable
    refine decide_eq_false ?_
    rintro (rfl | rfl)
    · exact absurd printable (by decide)
    · exact absurd printable (by decide)

section Lines

variable (ends : LineEnds)

/-- A text without line ends. -/
def Spares (text : Text) : Prop :=
  ∀ codePoint ∈ text, ends.isEnd codePoint = false

/-- The number of the line ends of a text. -/
def count (text : Text) : Nat :=
  text.countP ends.isEnd

/-- The lines of a text.  The last one stands behind the last line end. -/
def lines (text : Text) : List Text :=
  text.splitOnP ends.isEnd

variable {ends}

theorem spares_append_iff {text rest : Text} :
    ends.Spares (text ++ rest) ↔ ends.Spares text ∧ ends.Spares rest :=
  List.forall_mem_append

theorem spares_of_isAsciiPrintable {text : Text}
    (printable : text.all CodePoint.isAsciiPrintable = true) :
    ends.Spares text :=
  fun codePoint member =>
    ends.isEnd_printable codePoint (List.all_eq_true.mp printable _ member)

/-- Texts of printable characters have no line ends. -/
theorem forall_spares_of_isAsciiPrintable {texts : List Text}
    (printable : (texts.all fun text =>
      text.all CodePoint.isAsciiPrintable) = true) :
    ∀ text ∈ texts, ends.Spares text :=
  fun text isText =>
    spares_of_isAsciiPrintable (List.all_eq_true.mp printable text isText)

theorem count_append (text rest : Text) :
    ends.count (text ++ rest) = ends.count text + ends.count rest :=
  List.countP_append

theorem count_eq_zero_iff {text : Text} :
    ends.count text = 0 ↔ ends.Spares text := by
  simp only [count, Spares, List.countP_eq_zero, Bool.not_eq_true]

theorem spares_join {separator : Text} {parts : List Text}
    (ofSeparator : ends.Spares separator)
    (ofParts : ∀ part ∈ parts, ends.Spares part) :
    ends.Spares (Text.join separator parts) := by
  intro codePoint member
  by_contra isEnd
  refine Text.not_mem_join (fun inside => ?_)
    (fun part isPart inside => ?_) member
  · exact isEnd (ofSeparator codePoint inside)
  · exact isEnd (ofParts part isPart codePoint inside)

theorem spares_ofNat (number : Nat) : ends.Spares (Text.ofNat number) := by
  intro codePoint member
  obtain ⟨char, isDigit, rfl⟩ := List.mem_map.mp member
  have digit : char.isDigit = true :=
    Nat.isDigit_of_mem_toDigits (by decide) (by decide) isDigit
  apply ends.isEnd_printable
  simp only [Char.isDigit, Bool.and_eq_true, decide_eq_true_eq] at digit
  have least : 0x30 ≤ (CodePoint.scalar char).value := digit.1
  have greatest : (CodePoint.scalar char).value ≤ 0x39 := digit.2
  simp only [CodePoint.isAsciiPrintable, decide_eq_true_eq]
  omega

theorem lines_of_spares {text : Text} (spares : ends.Spares text) :
    ends.lines text = [text] :=
  List.splitOnP_eq_singleton spares

/-- A text has one line more than it has line ends. -/
theorem length_lines (text : Text) :
    (ends.lines text).length = ends.count text + 1 := by
  rw [lines, count]
  induction text with
  | nil => rfl
  | cons codePoint text ih =>
      rw [List.splitOnP_cons_eq_if_modifyHead, List.countP_cons]
      split
      · rw [List.length_cons, ih]
      · rw [List.length_modifyHead, ih, Nat.add_zero]

theorem lines_eq_singleton_iff {text : Text} :
    ends.lines text = [text] ↔ ends.Spares text := by
  refine ⟨fun single => count_eq_zero_iff.mp ?_, lines_of_spares⟩
  have counted := ends.length_lines text
  rw [single, List.length_singleton] at counted
  omega

theorem flatMap_lines_of_spares {texts : List Text}
    (spares : ∀ text ∈ texts, ends.Spares text) :
    texts.flatMap ends.lines = texts := by
  rw [List.flatMap_congr fun text isText =>
    lines_of_spares (spares text isText)]
  exact List.flatMap_singleton' texts

/-- Texts that are written one on a line are cut on their own, and what follows
them is cut behind them. -/
theorem lines_ofLines_append (texts : List Text) (rest : Text) :
    ends.lines (Text.ofLines texts ++ rest) =
      texts.flatMap ends.lines ++ ends.lines rest := by
  induction texts with
  | nil => rfl
  | cons text texts ih =>
      have unfolded : Text.ofLines (text :: texts) ++ rest =
          text ++ Text.lineFeed :: (Text.ofLines texts ++ rest) := by
        simp [Text.ofLines]
      rw [lines] at ih
      rw [unfolded, lines, List.splitOnP_append_cons _ _ ends.isEnd_lineFeed,
        ih, List.flatMap_cons, List.append_assoc, ← lines]

theorem lines_ofLines (texts : List Text) :
    ends.lines (Text.ofLines texts) = texts.flatMap ends.lines ++ [[]] := by
  have alone := ends.lines_ofLines_append texts []
  rwa [List.append_nil] at alone

/-- The first line of a text is what stands before its first line end. -/
theorem head?_lines (text : Text) :
    (ends.lines text).head? =
      some (text.takeWhile fun codePoint => !ends.isEnd codePoint) := by
  rw [lines]
  induction text with
  | nil => rfl
  | cons codePoint text ih =>
      rw [List.splitOnP_cons_eq_if_modifyHead, List.takeWhile_cons]
      cases isEnd : ends.isEnd codePoint with
      | true => rfl
      | false => simp [List.head?_modifyHead, ih]

/-- Lines begin with a text just if this text has no line ends. -/
theorem lines_append_eq_cons_iff {text : Text} {behind later : List Text} :
    ends.lines text ++ behind = text :: later ↔
      ends.Spares text ∧ behind = later := by
  constructor
  · intro same
    have begins := congrArg List.head? same
    rw [List.head?_append, head?_lines, Option.some_or, List.head?_cons,
      Option.some.injEq, List.takeWhile_eq_self_iff] at begins
    have spares : ends.Spares text := fun codePoint member => by
      simpa using begins codePoint member
    rw [lines_of_spares spares, List.singleton_append] at same
    exact ⟨spares, List.tail_eq_of_cons_eq same⟩
  · rintro ⟨spares, rfl⟩
    rw [lines_of_spares spares, List.singleton_append]

/-- The first line of a text begins with what stands before its line ends. -/
theorem lines_append {opening : Text} (spares : ends.Spares opening)
    (rest : Text) :
    ∃ first later, ends.lines rest = first :: later ∧
      ends.lines (opening ++ rest) = (opening ++ first) :: later := by
  obtain ⟨first, later, isLines⟩ :=
    List.exists_cons_of_ne_nil (List.splitOnP_ne_nil ends.isEnd rest)
  refine ⟨first, later, isLines, ?_⟩
  induction opening with
  | nil => exact isLines
  | cons codePoint opening ih =>
      obtain ⟨noEnd, spares⟩ := List.forall_mem_cons.mp spares
      have others := ih spares
      rw [lines] at others ⊢
      rw [List.cons_append, List.splitOnP_cons_eq_if_modifyHead, noEnd, others]
      rfl

end Lines

end LineEnds

end VestingContract
