import VestingContract.Yaml.QuotedScalar

/-!
# Block scalars

Scalars that take the indented lines behind a bar or an angle bracket.  A bar
keeps the line ends, an angle bracket turns single ones into spaces, and the
header says what becomes of the line ends behind the last line.
-/

namespace VestingContract
namespace Yaml

/-- What becomes of the line ends behind the last line. -/
inductive Chomping where
  | clip
  | strip
  | keep
  deriving DecidableEq, Repr

/-- The header of a block scalar. -/
structure BlockHeader where
  chomping : Chomping
  increment : Option Nat

/-- The chomping that a sign asks for. -/
def chompingOf? (char : Char) : Option Chomping :=
  if char = '+' then some .keep
  else if char = '-' then some .strip
  else none

/-- The indentation that a digit asks for. -/
def incrementOf? (char : Char) : Option Nat :=
  if Json.isDigit char then some (char.toNat - 48) else none

/-- The header behind the indicator: a sign and a digit in either order. -/
def blockHeader (cursor : Cursor) : Except Fault (BlockHeader × Cursor) := do
  let finish (header : BlockHeader) (cursor : Cursor) :
      Except Fault (BlockHeader × Cursor) :=
    if header.increment = some 0 ∨ !isSpaceOrEnd cursor.peek then
      .error .malformed
    else
      .ok (header, cursor)
  match chompingOf? cursor.peek, incrementOf? cursor.peek with
  | some chomping, _ =>
      let cursor := cursor.next
      match incrementOf? cursor.peek with
      | some increment => finish ⟨chomping, some increment⟩ cursor.next
      | none => finish ⟨chomping, none⟩ cursor
  | none, some increment =>
      let cursor := cursor.next
      match chompingOf? cursor.peek with
      | some chomping => finish ⟨chomping, some increment⟩ cursor.next
      | none => finish ⟨.clip, some increment⟩ cursor
  | none, none => finish ⟨.clip, none⟩ cursor

/-- The blank lines in front of a block scalar that gives no indentation: the
line ends, the greatest number of spaces on a line, and the cursor behind.
The last argument bounds the number of characters. -/
def leadingBlankLines (cursor : Cursor) (breaks : List Char)
    (indentation : Nat) : Nat → List Char × Nat × Cursor
  | 0 => (breaks, indentation, cursor)
  | bound + 1 =>
      if cursor.peek = ' ' then
        let cursor := cursor.next
        leadingBlankLines cursor breaks (max indentation cursor.column) bound
      else if isBreak cursor.peek then
        let (found, cursor) := cursor.lineBreak
        leadingBlankLines cursor (breaks ++ found) indentation bound
      else
        (breaks, indentation, cursor)

/-- The cursor behind the spaces in front of a column. -/
def skipIndentation (cursor : Cursor) (indentation : Nat) : Cursor :=
  cursor.forward
    (min (cursor.span (· == ' ')).length (indentation - cursor.column))

/-- The line ends between two lines of a block scalar, and the cursor behind
the indentation of the second one.  The last argument bounds their number. -/
def blockBreaks (cursor : Cursor) (indentation : Nat)
    (breaks : List Char) : Nat → List Char × Cursor
  | 0 => (breaks, cursor)
  | bound + 1 =>
      let cursor := skipIndentation cursor indentation
      if isBreak cursor.peek then
        let (found, cursor) := cursor.lineBreak
        blockBreaks cursor indentation (breaks ++ found) bound
      else
        (breaks, cursor)

/-- The lines of a block scalar, with the line end behind the last one and
those behind that.  The last argument bounds the number of lines. -/
def blockLines (folded : Bool) (indentation : Nat) (cursor : Cursor)
    (gathered lastBreak breaks : List Char) :
    Nat → List Char × List Char × List Char × Cursor
  | 0 => (gathered, lastBreak, breaks, cursor)
  | bound + 1 =>
      if cursor.column = indentation ∧ cursor.peek ≠ '\x00' then
        let startsWithText := !isSpaceOrTab cursor.peek
        let line := cursor.span fun char => !isLineEnd char
        let gathered := gathered ++ breaks ++ line
        let (lastBreak, cursor) :=
          (cursor.skip fun char => !isLineEnd char).lineBreak
        let (breaks, cursor) :=
          blockBreaks cursor indentation [] (cursor.rest.length + 1)
        if cursor.column = indentation ∧ cursor.peek ≠ '\x00' then
          let joint :=
            if folded && lastBreak == ['\n'] && startsWithText &&
                !isSpaceOrTab cursor.peek then
              if breaks.isEmpty then [' '] else []
            else
              lastBreak
          blockLines folded indentation cursor (gathered ++ joint) lastBreak
            breaks bound
        else
          (gathered, lastBreak, breaks, cursor)
      else
        (gathered, lastBreak, breaks, cursor)

/-- The block scalar at the cursor, which stands at its indicator.  Its lines
are indented by more than `indent`. -/
def blockScalar (indent : Int) (cursor : Cursor) :
    Except Fault (Text × Cursor) := do
  let folded := cursor.peek == '>'
  let (header, cursor) ← blockHeader cursor.next
  let cursor ← cursor.ignoredLine
  let least := max (indent + 1).toNat 1
  let bound := cursor.rest.length + 1
  let (breaks, indentation, cursor) :=
    match header.increment with
    | none =>
        let (breaks, found, cursor) := leadingBlankLines cursor [] 0 bound
        (breaks, max least found, cursor)
    | some increment =>
        let indentation := least + increment - 1
        let (breaks, cursor) := blockBreaks cursor indentation [] bound
        (breaks, indentation, cursor)
  let (gathered, lastBreak, breaks, cursor) :=
    blockLines folded indentation cursor [] [] breaks bound
  let tail :=
    match header.chomping with
    | .clip => lastBreak
    | .strip => []
    | .keep => lastBreak ++ breaks
  return (Text.ofChars (gathered ++ tail), cursor)

end Yaml
end VestingContract
