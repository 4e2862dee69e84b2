import VestingContract.Text.Printable

/-!
# Quoted text

Messages show a text between quote marks with everything unprintable written
as a backslash escape.  Apostrophes enclose the text unless it holds an
apostrophe and no double quote.
-/

namespace VestingContract

/-- The mark that encloses a text with the given members. -/
def quoteMark (holdsApostrophe holdsDoubleQuote : Bool) : Char :=
  if holdsApostrophe && !holdsDoubleQuote then '"' else '\x27'

/-- A backslash escape with the fewest of two, four and eight digits. -/
def hexEscape (number : Nat) : Text :=
  if number < 0x100 then
    "\\x" ++ Text.ofHex 2 number
  else if number < 0x10000 then
    "\\u" ++ Text.ofHex 4 number
  else
    "\\U" ++ Text.ofHex 8 number

/-- One code point as it stands between quote marks. -/
def CodePoint.quotedWithin (mark : Char) (asciiOnly : Bool)
    (codePoint : CodePoint) : Text :=
  if codePoint = .scalar mark || codePoint = .scalar '\\' then
    [.scalar '\\', codePoint]
  else if codePoint = .scalar '\n' then
    "\\n"
  else if codePoint = .scalar '\r' then
    "\\r"
  else if codePoint = .scalar '\t' then
    "\\t"
  else if codePoint.value < 0x80 then
    if 0x20 ≤ codePoint.value && codePoint.value < 0x7F then
      [codePoint]
    else
      hexEscape codePoint.value
  else if !asciiOnly && codePoint.isPrintable then
    [codePoint]
  else
    hexEscape codePoint.value

namespace Text

/-- A text between quote marks, with non-ASCII code points escaped on
demand. -/
def quotedAs (asciiOnly : Bool) (text : Text) : Text :=
  let mark := quoteMark (text.contains (.scalar '\x27'))
    (text.contains (.scalar '"'))
  [CodePoint.scalar mark] ++
    text.flatMap (CodePoint.quotedWithin mark asciiOnly) ++
    [CodePoint.scalar mark]

/-- A text between quote marks. -/
def quoted (text : Text) : Text :=
  quotedAs false text

/-- A text with every code point beyond ASCII written as an escape. -/
def toAscii (text : Text) : Text :=
  text.flatMap fun codePoint =>
    if codePoint.value < 0x80 then [codePoint] else hexEscape codePoint.value

end Text

/-- One byte as it stands between quote marks. -/
def byteQuotedWithin (mark : Char) (byte : UInt8) : Text :=
  CodePoint.quotedWithin mark true (.scalar (Char.ofNat byte.toNat))

/-- A sequence of bytes between quote marks behind the letter `b`. -/
def quotedBytes (bytes : List UInt8) : Text :=
  let mark := quoteMark (bytes.contains 0x27) (bytes.contains 0x22)
  ([CodePoint.scalar 'b', CodePoint.scalar mark] : Text) ++
    bytes.flatMap (byteQuotedWithin mark) ++ [CodePoint.scalar mark]

end VestingContract
