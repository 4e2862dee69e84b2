import VestingContract.Json.Lexeme
import VestingContract.Number.Power
import VestingContract.Yaml.Cursor

/-!
# Quoted scalars

Scalars between apostrophes, in which an apostrophe is written twice, and
between quotation marks, with backslash escapes.  A line end inside either is
a space, and each further one a line feed.
-/

namespace VestingContract
namespace Yaml

/-- The characters that a letter behind a backslash stands for. -/
def namedEscapes : List (Char × Char) :=
  [('0', '\x00'), ('a', '\x07'), ('b', '\x08'), ('t', '\t'), ('\t', '\t'),
    ('n', '\n'), ('v', '\x0b'), ('f', '\x0c'), ('r', '\r'), ('e', '\x1b'),
    (' ', ' '), ('"', '"'), ('\\', '\\'), ('/', '/'), ('N', '\x85'),
    ('_', '\xa0'), ('L', '\u2028'), ('P', '\u2029')]

/-- The number of hexadecimal digits behind a letter. -/
def numericEscapes : List (Char × Nat) :=
  [('x', 2), ('u', 4), ('U', 8)]

def hexNumber? (digits : List Char) : Option Nat :=
  digits.foldlM (fun number digit => do
    return number * 16 + (← Json.hexValue? digit)) 0

/-- The code point that a number of hexadecimal digits spell. -/
def numericEscape (cursor : Cursor) (count : Nat) :
    Except Fault (Text × Cursor) :=
  let digits := cursor.rest.take count
  match hexNumber? digits with
  | none => .error .malformed
  | some number =>
      if digits.length < count then
        .error .malformed
      else
        match CodePoint.ofNat? number with
        | some codePoint => .ok ([codePoint], cursor.forward count)
        | none =>
            if number < raise 2 31 then .error .escapeOutOfRange
            else .error .escapeTooLarge

/-- The escape behind a backslash.  An escaped line end is left out. -/
def escape (cursor : Cursor) : Except Fault (Text × Cursor) :=
  let letter := cursor.peek
  match namedEscapes.lookup letter, numericEscapes.lookup letter with
  | some char, _ => .ok ([.scalar char], cursor.next)
  | none, some count => numericEscape cursor.next count
  | none, none =>
      if isBreak letter then do
        let cursor := cursor.lineBreak.2
        let (breaks, cursor) ←
          cursor.quotedBreaks [] (cursor.rest.length + 1)
        return (Text.ofChars breaks, cursor)
      else
        .error .malformed

/-- A character that neither ends nor interrupts a run of a quoted
scalar. -/
def isQuotedRun (char : Char) : Bool :=
  !(char == '\x27' || char == '"' || char == '\\' || isBlankOrEnd char)

/-- The blanks at the cursor as they are read in a quoted scalar. -/
def quotedBlanks (cursor : Cursor) : Except Fault (Text × Cursor) := do
  let blanks := cursor.span isSpaceOrTab
  let cursor := cursor.skip isSpaceOrTab
  if cursor.peek = '\x00' then
    throw .malformed
  else if isBreak cursor.peek then
    let (first, cursor) := cursor.lineBreak
    let (breaks, cursor) ← cursor.quotedBreaks [] (cursor.rest.length + 1)
    let lead : List Char :=
      if first != ['\n'] then first
      else if breaks.isEmpty then [' ']
      else []
    return (Text.ofChars (lead ++ breaks), cursor)
  else
    return (Text.ofChars blanks, cursor)

/-- The content of a quoted scalar up to its closing mark.  The last argument
bounds the number of its parts. -/
def quotedContent (double : Bool) (cursor : Cursor) (gathered : Text) :
    Nat → Except Fault (Text × Cursor)
  | 0 => .error .malformed
  | bound + 1 =>
      let run := cursor.span isQuotedRun
      let cursor := cursor.skip isQuotedRun
      let gathered := gathered ++ Text.ofChars run
      let char := cursor.peek
      let mark := if double then '"' else '\x27'
      if !double && char == '\x27' && cursor.peekAt 1 == '\x27' then
        quotedContent double (cursor.forward 2)
          (gathered ++ [CodePoint.scalar '\x27']) bound
      else if char == mark then
        .ok (gathered, cursor.next)
      else if double && char == '\\' then do
        let (escaped, cursor) ← escape cursor.next
        quotedContent double cursor (gathered ++ escaped) bound
      else if char == '\x27' || char == '"' || char == '\\' then
        quotedContent double cursor.next
          (gathered ++ [CodePoint.scalar char]) bound
      else do
        let (blanks, cursor) ← quotedBlanks cursor
        quotedContent double cursor (gathered ++ blanks) bound

/-- The scalar at the cursor, which stands at its opening mark. -/
def quotedScalar (cursor : Cursor) : Except Fault (Text × Cursor) :=
  quotedContent (cursor.peek == '"') cursor.next []
    (cursor.rest.length + 1)

end Yaml
end VestingContract
