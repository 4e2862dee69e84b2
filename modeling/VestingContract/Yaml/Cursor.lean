import VestingContract.Yaml.Fault

/-!
# Cursors in YAML documents

A cursor is the rest of a document with its line and column.  Behind the end
of the document it shows null characters, which no document holds.
-/

namespace VestingContract
namespace Yaml

def isBreak (char : Char) : Bool :=
  char == '\n' || char == '\x85' || char == '\u2028' || char == '\u2029'

/-- The end of a line or of the document. -/
def isLineEnd (char : Char) : Bool :=
  char == '\x00' || isBreak char

/-- A space or the end of a line. -/
def isSpaceOrEnd (char : Char) : Bool :=
  char == ' ' || isLineEnd char

/-- A space, a tab or the end of a line. -/
def isBlankOrEnd (char : Char) : Bool :=
  char == '\t' || isSpaceOrEnd char

def isSpaceOrTab (char : Char) : Bool :=
  char == ' ' || char == '\t'

/-- A character of names. -/
def isNameChar (char : Char) : Bool :=
  ('0' ≤ char && char ≤ '9') || ('A' ≤ char && char ≤ 'Z') ||
    ('a' ≤ char && char ≤ 'z') || char == '-' || char == '_'

/-- A character that documents may hold. -/
def isAllowed (char : Char) : Bool :=
  let number := char.toNat
  number == 0x09 || number == 0x0A || number == 0x0D ||
    (0x20 ≤ number && number ≤ 0x7E) || number == 0x85 ||
    (0xA0 ≤ number && number ≤ 0xD7FF) ||
    (0xE000 ≤ number && number ≤ 0xFFFD) || 0x10000 ≤ number

/-- A position in a document. -/
structure Cursor where
  rest : List Char
  index : Nat
  line : Nat
  column : Nat

namespace Cursor

/-- The beginning of a document. -/
def start (document : List Char) : Cursor := ⟨document, 0, 0, 0⟩

/-- The character at a distance from the cursor. -/
def peekAt (cursor : Cursor) (distance : Nat) : Char :=
  ((cursor.rest.drop distance).head?).getD '\x00'

def peek (cursor : Cursor) : Char := cursor.peekAt 0

/-- The cursor behind the next character.  A byte order mark takes no
column. -/
def next (cursor : Cursor) : Cursor :=
  match cursor.rest with
  | [] => cursor
  | char :: rest =>
      if isBreak char then
        ⟨rest, cursor.index + 1, cursor.line + 1, 0⟩
      else if char = '\uFEFF' then
        ⟨rest, cursor.index + 1, cursor.line, cursor.column⟩
      else
        ⟨rest, cursor.index + 1, cursor.line, cursor.column + 1⟩

/-- The cursor behind some characters. -/
def forward (cursor : Cursor) : Nat → Cursor
  | 0 => cursor
  | count + 1 => cursor.next.forward count

/-- The characters up to the first one that fails a test. -/
def span (cursor : Cursor) (test : Char → Bool) : List Char :=
  cursor.rest.takeWhile test

/-- The cursor at the first character that fails a test. -/
def skip (cursor : Cursor) (test : Char → Bool) : Cursor :=
  cursor.forward (cursor.span test).length

def skipSpaces (cursor : Cursor) : Cursor :=
  cursor.skip (· == ' ')

/-- The cursor at the end of a comment, if there is one. -/
def skipComment (cursor : Cursor) : Cursor :=
  if cursor.peek = '#' then cursor.skip fun char => !isLineEnd char
  else cursor

/-- The line end at the cursor as text, and the cursor behind it.  All line
ends but the two separators of Unicode are line feeds. -/
def lineBreak (cursor : Cursor) : List Char × Cursor :=
  let char := cursor.peek
  if char = '\n' ∨ char = '\x85' then
    (['\n'], cursor.next)
  else if isBreak char then
    ([char], cursor.next)
  else
    ([], cursor)

/-- Three hyphens or points with a blank behind them separate documents. -/
def atSeparator (cursor : Cursor) : Bool :=
  let marks := cursor.rest.take 3
  (marks == "---".toList || marks == "...".toList) &&
    isBlankOrEnd (cursor.peekAt 3)

/-- The line ends at the cursor as text, with spaces and tabs between them,
and the cursor behind them.  No separator of documents may follow one of them.
The last argument bounds their number. -/
def quotedBreaks (cursor : Cursor) (gathered : List Char) :
    Nat → Except Fault (List Char × Cursor)
  | 0 => .ok (gathered, cursor)
  | bound + 1 =>
      if cursor.atSeparator then
        .error .malformed
      else
        let cursor := cursor.skip isSpaceOrTab
        if isBreak cursor.peek then
          let (found, cursor) := cursor.lineBreak
          cursor.quotedBreaks (gathered ++ found) bound
        else
          .ok (gathered, cursor)

/-- The rest of a line may hold a comment only; the cursor behind the
line. -/
def ignoredLine (cursor : Cursor) : Except Fault Cursor :=
  let cursor := cursor.skipSpaces.skipComment
  if isLineEnd cursor.peek then .ok cursor.lineBreak.2
  else .error .malformed

end Cursor
end Yaml
end VestingContract
