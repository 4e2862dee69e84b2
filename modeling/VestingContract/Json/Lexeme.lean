import VestingContract.Text.CodePoint

/-!
# Lexemes of JSON documents

A document is cut into brackets, commas, colons, texts, numbers and words,
each with its position.  What cannot be cut is kept as a lexeme of its own, so
that the reader decides where it is an error and which one.
-/

namespace VestingContract
namespace Json

/-- What is wrong inside a text. -/
inductive TextReason where
  | unterminated
  | controlCharacter
  | invalidEscape
  | invalidUnicodeEscape
  deriving DecidableEq, Repr

/-- A fault inside a text and the position that it is reported at. -/
structure TextFault where
  reason : TextReason
  position : Nat
  deriving DecidableEq, Repr

/-- The smallest parts of a document. -/
inductive Lexeme where
  | beginArray
  | endArray
  | beginObject
  | endObject
  | comma
  | colon
  | text (content : Text)
  | brokenText (fault : TextFault)
  | number (lexeme : List Char)
  | bool (truth : Bool)
  | null
  | nonFinite (name : Text)
  | stray
  deriving DecidableEq, Repr

/-- White space between lexemes. -/
def isSpace (char : Char) : Bool :=
  char == ' ' || char == '\t' || char == '\n' || char == '\r'

def isDigit (char : Char) : Bool :=
  '0' ≤ char && char ≤ '9'

def hexValue? (char : Char) : Option Nat :=
  if '0' ≤ char ∧ char ≤ '9' then
    some (char.toNat - 48)
  else if 'a' ≤ char ∧ char ≤ 'f' then
    some (char.toNat - 87)
  else if 'A' ≤ char ∧ char ≤ 'F' then
    some (char.toNat - 55)
  else
    none

/-- The code point of four hexadecimal digits. -/
def ofHexDigits? (first second third fourth : Char) : Option CodePoint := do
  let high := (← hexValue? first) * 16 + (← hexValue? second)
  let low := (← hexValue? third) * 16 + (← hexValue? fourth)
  CodePoint.ofNat? (high * 256 + low)

/-- The code point that a letter behind a backslash stands for. -/
def simpleEscape? : Char → Option CodePoint
  | '"' => some (.scalar '"')
  | '\\' => some (.scalar '\\')
  | '/' => some (.scalar '/')
  | 'b' => some (.scalar '\x08')
  | 'f' => some (.scalar '\x0c')
  | 'n' => some (.scalar '\n')
  | 'r' => some (.scalar '\r')
  | 't' => some (.scalar '\t')
  | _ => none

/-- Code points and the length that they were read from. -/
structure Reading where
  content : Text
  length : Nat
  deriving DecidableEq, Repr

/-- A reading that begins with one more code point. -/
def Reading.cons (codePoint : CodePoint) (covered : Nat)
    (reading : Reading) : Reading :=
  ⟨codePoint :: reading.content, covered + reading.length⟩

/-- Read the content of a text up to its closing mark.  The opening mark
stands at `opening` and the remaining characters begin at `position`.  Two
escaped halves of a surrogate pair are one code point; a half without its
partner stands for itself. -/
def readText (opening position : Nat) :
    List Char → Except TextFault Reading
  | [] => .error ⟨.unterminated, opening⟩
  | '"' :: _ => .ok ⟨[], 1⟩
  | '\\' :: [] => .error ⟨.unterminated, opening⟩
  | '\\' :: 'u' :: rest =>
      let invalid := Except.error ⟨.invalidUnicodeEscape, position + 1⟩
      match rest with
      | first :: second :: third :: fourth :: next :: rest =>
          match ofHexDigits? first second third fourth with
          | none => invalid
          | some codePoint =>
              let single := (readText opening (position + 6)
                (next :: rest)).map (.cons codePoint 6)
              match next, rest with
              | '\\', 'u' :: first :: second :: third :: fourth ::
                  next :: rest =>
                  if codePoint.isLeadingSurrogate then
                    match ofHexDigits? first second third fourth with
                    | none =>
                        .error ⟨.invalidUnicodeEscape, position + 7⟩
                    | some partner =>
                        if partner.isTrailingSurrogate then
                          (readText opening (position + 12)
                            (next :: rest)).map
                              (.cons (.ofPair codePoint partner) 12)
                        else
                          single
                  else
                    single
              | _, _ => single
      | _ => invalid
  | '\\' :: letter :: rest =>
      match simpleEscape? letter with
      | none => .error ⟨.invalidEscape, position⟩
      | some codePoint =>
          (readText opening (position + 2) rest).map (.cons codePoint 2)
  | char :: rest =>
      if char.toNat < 0x20 then
        .error ⟨.controlCharacter, position⟩
      else
        (readText opening (position + 1) rest).map (.cons (.scalar char) 1)

/-- The digits of the integral part: a single zero, or digits of which the
first one is no zero. -/
def integralDigits : List Char → List Char
  | '0' :: _ => ['0']
  | chars => chars.takeWhile isDigit

/-- A point with at least one digit behind it, or nothing. -/
def fractionPart : List Char → List Char
  | '.' :: rest =>
      let digits := rest.takeWhile isDigit
      if digits.isEmpty then [] else '.' :: digits
  | _ => []

/-- The sign of an exponent, or nothing. -/
def exponentSign : List Char → List Char
  | '+' :: _ => ['+']
  | '-' :: _ => ['-']
  | _ => []

/-- The letter of an exponent with its sign and at least one digit, or
nothing. -/
def exponentDigits : List Char → List Char
  | letter :: rest =>
      let sign := exponentSign rest
      let digits := (rest.drop sign.length).takeWhile isDigit
      if (letter == 'e' || letter == 'E') && !digits.isEmpty then
        letter :: (sign ++ digits)
      else
        []
  | [] => []

/-- The longest number that characters begin with. -/
def numberLexeme? (chars : List Char) : Option (List Char) :=
  let sign : List Char := if chars.head? = some '-' then ['-'] else []
  let afterSign := chars.drop sign.length
  let integral := integralDigits afterSign
  let afterIntegral := afterSign.drop integral.length
  let fraction := fractionPart afterIntegral
  let exponent := exponentDigits (afterIntegral.drop fraction.length)
  if integral.isEmpty then
    none
  else
    some (sign ++ integral ++ fraction ++ exponent)

/-- The words of the notation with the lexemes that they are. -/
def words : List (List Char × Lexeme) :=
  [("null".toList, .null), ("true".toList, .bool true),
    ("false".toList, .bool false), ("NaN".toList, .nonFinite "NaN"),
    ("Infinity".toList, .nonFinite "Infinity"),
    ("-Infinity".toList, .nonFinite "-Infinity")]

/-- The lexeme at the beginning of characters that no punctuation mark
begins, with the number of its characters. -/
def wordOrNumber (chars : List Char) : Lexeme × Nat :=
  match words.find? fun word => word.1.isPrefixOf chars with
  | some word => (word.2, word.1.length)
  | none =>
      match numberLexeme? chars with
      | some lexeme => (.number lexeme, lexeme.length)
      | none => (.stray, 1)

/-- The lexeme at the beginning of characters, with the number of its
characters; `none` stands for white space. -/
def firstLexeme (position : Nat) (char : Char) (rest : List Char) :
    Option Lexeme × Nat :=
  if isSpace char then
    (none, 1)
  else
    match char with
    | '[' => (some .beginArray, 1)
    | ']' => (some .endArray, 1)
    | '\x7b' => (some .beginObject, 1)
    | '\x7d' => (some .endObject, 1)
    | ',' => (some .comma, 1)
    | ':' => (some .colon, 1)
    | '"' =>
        match readText position (position + 1) rest with
        | .ok reading => (some (.text reading.content), 1 + reading.length)
        | .error fault => (some (.brokenText fault), 1)
    | _ =>
        let (lexeme, length) := wordOrNumber (char :: rest)
        (some lexeme, length)

/-- The lexemes of characters with their positions.  The first `covered`
characters belong to a lexeme that begins before them. -/
def lexFrom (position covered : Nat) : List Char → List (Nat × Lexeme)
  | [] => []
  | char :: rest =>
      match covered with
      | covered + 1 => lexFrom (position + 1) covered rest
      | 0 =>
          let (lexeme, length) := firstLexeme position char rest
          let later := lexFrom (position + 1) (length - 1) rest
          match lexeme with
          | some lexeme => (position, lexeme) :: later
          | none => later

/-- The lexemes of a document with their positions. -/
def lex (document : List Char) : List (Nat × Lexeme) :=
  lexFrom 0 0 document

end Json
end VestingContract
