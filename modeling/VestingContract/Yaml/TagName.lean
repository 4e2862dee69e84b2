import VestingContract.Yaml.QuotedScalar
import VestingContract.Yaml.Token

/-!
# Names in YAML documents

Anchors, aliases, tags and the instructions in front of a document.
-/

namespace VestingContract
namespace Yaml

/-- A name of at least one character. -/
def name (cursor : Cursor) : Except Fault (Text × Cursor) :=
  let found := cursor.span isNameChar
  if found.isEmpty then .error .malformed
  else .ok (Text.ofChars found, cursor.forward found.length)

/-- The name behind the indicator of an anchor or an alias. -/
def anchorName (cursor : Cursor) : Except Fault (Text × Cursor) := do
  let (found, cursor) ← name cursor.next
  if isBlankOrEnd cursor.peek ||
      "?:,]\x7d%@\x60".toList.contains cursor.peek then
    return (found, cursor)
  else
    throw .malformed

/-- The handle of a tag: an exclamation mark, or a name between two of
them. -/
def tagHandle (cursor : Cursor) : Except Fault (Text × Cursor) :=
  if cursor.peek ≠ '!' then
    .error .malformed
  else if cursor.peekAt 1 = ' ' then
    .ok ("!", cursor.next)
  else
    let middle := cursor.next.span isNameChar
    if cursor.peekAt (middle.length + 1) = '!' then
      .ok (Text.ofChars ('!' :: middle ++ ['!']),
        cursor.forward (middle.length + 2))
    else
      .error .malformed

/-- A character of the text of a tag. -/
def isTagChar (char : Char) : Bool :=
  isNameChar char || ";/?:@&=+$,_.!~*\x27()[]".toList.contains char

/-- The bytes of percent escapes at the cursor.  The last argument bounds
their number. -/
def percentBytes (cursor : Cursor) (bytes : List UInt8) :
    Nat → Except Fault (List UInt8 × Cursor)
  | 0 => .ok (bytes, cursor)
  | bound + 1 =>
      if cursor.peek = '%' then
        let digits := cursor.next.rest.take 2
        match hexNumber? digits with
        | none => .error .malformed
        | some number =>
            if digits.length < 2 then .error .malformed
            else percentBytes (cursor.forward 3)
              (bytes ++ [UInt8.ofNat number]) bound
      else
        .ok (bytes, cursor)

/-- The text of a tag from the cursor on.  The last argument bounds the
number of its parts. -/
def tagTextFrom (cursor : Cursor) (gathered : List Char) :
    Nat → Except Fault (List Char × Cursor)
  | 0 => .ok (gathered, cursor)
  | bound + 1 =>
      let run := cursor.span isTagChar
      let cursor := cursor.forward run.length
      let gathered := gathered ++ run
      if cursor.peek = '%' then do
        let (bytes, cursor) ←
          percentBytes cursor [] (cursor.rest.length + 1)
        match Utf8.decode bytes with
        | .error _ => throw .malformed
        | .ok chars => tagTextFrom cursor (gathered ++ chars) bound
      else
        .ok (gathered, cursor)

/-- The text of a tag, which is not empty. -/
def tagText (cursor : Cursor) : Except Fault (Text × Cursor) := do
  let start := cursor.index
  let (found, cursor) ← tagTextFrom cursor [] (cursor.rest.length + 1)
  if cursor.index = start then
    throw .malformed
  else
    return (Text.ofChars found, cursor)

/-- A tag with a handle has a second exclamation mark before its end. -/
def hasHandle (cursor : Cursor) : Bool :=
  (cursor.next.rest.takeWhile fun char =>
    !isSpaceOrEnd char).contains '!'

/-- The tag at the cursor. -/
def tagToken (cursor : Cursor) : Except Fault (Token × Cursor) := do
  let (token, cursor) ←
    if cursor.peekAt 1 = '<' then do
      let (suffix, cursor) ← tagText (cursor.forward 2)
      if cursor.peek ≠ '>' then
        throw .malformed
      pure (Token.tag none suffix, cursor.next)
    else if isBlankOrEnd (cursor.peekAt 1) then
      pure (Token.tag none "!", cursor.next)
    else do
      let (handle, cursor) ←
        if hasHandle cursor then tagHandle cursor
        else pure (("!" : Text), cursor.next)
      let (suffix, cursor) ← tagText cursor
      pure (Token.tag (some handle) suffix, cursor)
  if isSpaceOrEnd cursor.peek then
    return (token, cursor)
  else
    throw .malformed

def versionNumber (cursor : Cursor) : Except Fault (Int × Cursor) :=
  let digits := cursor.span Json.isDigit
  if digits.isEmpty then
    .error .malformed
  else
    match readWhole 10 (Text.ofChars digits) with
    | .ok number => .ok (number, cursor.forward digits.length)
    | .error fault => .error (.whole fault)

/-- The version that an instruction asks for. -/
def versionDirective (cursor : Cursor) :
    Except Fault (Directive × Cursor) := do
  let (major, cursor) ← versionNumber cursor.skipSpaces
  if cursor.peek ≠ '.' then
    throw .malformed
  let (_, cursor) ← versionNumber cursor.next
  if !isSpaceOrEnd cursor.peek then
    throw .malformed
  return (.version major, cursor)

/-- The handle of tags that an instruction declares. -/
def handleDirective (cursor : Cursor) : Except Fault (Directive × Cursor) := do
  let (handle, cursor) ← tagHandle cursor.skipSpaces
  if cursor.peek ≠ ' ' then
    throw .malformed
  let (leading, cursor) ← tagText cursor.skipSpaces
  if !isSpaceOrEnd cursor.peek then
    throw .malformed
  return (.handle handle leading, cursor)

/-- The instruction at the cursor, with its whole line. -/
def directiveToken (cursor : Cursor) : Except Fault (Token × Cursor) := do
  let (word, cursor) ← name cursor.next
  if !isSpaceOrEnd cursor.peek then
    throw .malformed
  let (directive, cursor) ←
    if word = "YAML" then versionDirective cursor
    else if word = "TAG" then handleDirective cursor
    else pure (Directive.other,
      cursor.skip fun char => !isLineEnd char)
  let cursor ← cursor.ignoredLine
  return (.directive directive, cursor)

end Yaml
end VestingContract
