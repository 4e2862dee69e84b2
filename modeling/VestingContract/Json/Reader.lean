import VestingContract.Json.Lexeme
import VestingContract.Value.Key

/-!
# Reading JSON documents

A reader takes the lexemes of a document one by one and keeps the arrays and
objects that are still open.  The first lexeme that cannot follow decides the
fault.  Numbers stay texts, and the members of an object stay in order, those
of one name included.
-/

namespace VestingContract

/-- A document. -/
inductive Json where
  | null
  | bool (truth : Bool)
  | number (lexeme : List Char)
  | text (content : Text)
  | array (items : List Json)
  | object (members : List (Text × Json))
  deriving Repr, Inhabited

namespace Json

/-- What a document lacks at a position. -/
inductive SyntaxReason where
  | inText (reason : TextReason)
  | expectedValue
  | expectedName
  | expectedColon
  | expectedComma
  | extraData
  | byteOrderMark
  deriving DecidableEq, Repr

def SyntaxReason.message : SyntaxReason → Text
  | inText .unterminated => "Unterminated string starting at"
  | inText .controlCharacter => "Invalid control character at"
  | inText .invalidEscape => "Invalid \\escape"
  | inText .invalidUnicodeEscape => "Invalid \\uXXXX escape"
  | expectedValue => "Expecting value"
  | expectedName => "Expecting property name enclosed in double quotes"
  | expectedColon => "Expecting ':' delimiter"
  | expectedComma => "Expecting ',' delimiter"
  | extraData => "Extra data"
  | byteOrderMark => "Unexpected UTF-8 BOM (decode using utf-8-sig)"

/-- The containers of a document. -/
inductive Container where
  | array
  | object
  deriving DecidableEq, Repr

/-- Why characters are no document. -/
inductive Fault where
  | malformed (reason : SyntaxReason) (position : Nat)
  | nonFinite (name : Text)
  | tooDeep (container : Container)
  deriving DecidableEq, Repr

/-- A position as the line, the column and the number of characters
before it; lines and columns are counted from one. -/
def placeText (document : List Char) (position : Nat) : Text :=
  let before := document.take position
  let line := before.count '\n' + 1
  let column := (before.reverse.takeWhile (· != '\n')).length + 1
  "line " ++ Text.ofNat line ++ " column " ++ Text.ofNat column ++
    " (char " ++ Text.ofNat position ++ ")"

/-- A container that is still open: the items or members that it holds so
far, the last one first, and the name of the member that is being read. -/
inductive Frame where
  | array (items : List Json)
  | object (members : List (Text × Json)) (name : Text)

/-- What may follow at a point of a document. -/
inductive Point where
  | value
  | valueOrEnd
  | nameOrEnd
  | name (members : List (Text × Json))
  | colon (members : List (Text × Json)) (name : Text)
  | afterItem (items : List Json)
  | afterMember (members : List (Text × Json))
  | finished (document : Json)

/-- A point of a document inside its open containers, the innermost one
first. -/
structure Reader where
  point : Point
  frames : List Frame

/-- The point before a document. -/
def Reader.start : Reader := ⟨.value, []⟩

/-- A value has been read inside the open containers. -/
def Reader.complete (value : Json) : List Frame → Reader
  | [] => ⟨.finished value, []⟩
  | .array items :: frames => ⟨.afterItem (value :: items), frames⟩
  | .object members name :: frames =>
      ⟨.afterMember ((name, value) :: members), frames⟩

/-- Read a lexeme where a value is wanted. -/
def Reader.readValue (limit : Nat) (frames : List Frame)
    (position : Nat) : Lexeme → Except Fault Reader
  | .null => .ok (complete .null frames)
  | .bool truth => .ok (complete (.bool truth) frames)
  | .number lexeme => .ok (complete (.number lexeme) frames)
  | .text content => .ok (complete (.text content) frames)
  | .beginArray =>
      if limit ≤ frames.length then .error (.tooDeep .array)
      else .ok ⟨.valueOrEnd, .array [] :: frames⟩
  | .beginObject =>
      if limit ≤ frames.length then .error (.tooDeep .object)
      else .ok ⟨.nameOrEnd, frames⟩
  | .nonFinite name => .error (.nonFinite name)
  | .brokenText fault =>
      .error (.malformed (.inText fault.reason) fault.position)
  | _ => .error (.malformed .expectedValue position)

/-- Read a lexeme where the name of a member is wanted. -/
def Reader.readName (members : List (Text × Json)) (frames : List Frame)
    (position : Nat) : Lexeme → Except Fault Reader
  | .text name => .ok ⟨.colon members name, frames⟩
  | .brokenText fault =>
      .error (.malformed (.inText fault.reason) fault.position)
  | _ => .error (.malformed .expectedName position)

/-- Read one lexeme.  At most `limit` containers may be open. -/
def Reader.step (limit : Nat) (reader : Reader)
    (positioned : Nat × Lexeme) : Except Fault Reader :=
  let (position, lexeme) := positioned
  let frames := reader.frames
  match reader.point, lexeme with
  | .valueOrEnd, .endArray =>
      match frames with
      | .array items :: frames =>
          .ok (complete (.array items.reverse) frames)
      | _ => .error (.malformed .expectedValue position)
  | .value, lexeme | .valueOrEnd, lexeme =>
      readValue limit frames position lexeme
  | .nameOrEnd, .endObject => .ok (complete (.object []) frames)
  | .nameOrEnd, lexeme => readName [] frames position lexeme
  | .name members, lexeme => readName members frames position lexeme
  | .colon members name, .colon =>
      .ok ⟨.value, .object members name :: frames⟩
  | .colon .., _ => .error (.malformed .expectedColon position)
  | .afterItem items, .comma => .ok ⟨.value, .array items :: frames⟩
  | .afterItem items, .endArray =>
      .ok (complete (.array items.reverse) frames)
  | .afterMember members, .comma => .ok ⟨.name members, frames⟩
  | .afterMember members, .endObject =>
      .ok (complete (.object members.reverse) frames)
  | .afterItem _, _ | .afterMember _, _ =>
      .error (.malformed .expectedComma position)
  | .finished _, _ => .error (.malformed .extraData position)

/-- The document that a reader has read when the characters end. -/
def Reader.finish (length : Nat) (reader : Reader) : Except Fault Json :=
  match reader.point with
  | .finished document => .ok document
  | .value | .valueOrEnd => .error (.malformed .expectedValue length)
  | .nameOrEnd | .name _ => .error (.malformed .expectedName length)
  | .colon .. => .error (.malformed .expectedColon length)
  | .afterItem _ | .afterMember _ =>
      .error (.malformed .expectedComma length)

/-- Read a document in which at most `limit` containers are open at once. -/
def read (limit : Nat) (document : List Char) : Except Fault Json :=
  if document.head? = some '\uFEFF' then
    .error (.malformed .byteOrderMark 0)
  else do
    let reader ← (lex document).foldlM (Reader.step limit) Reader.start
    reader.finish document.length

mutual

/-- The value of a document, its numbers being read by a function.  Of
several members with one name the first one gives the place and the last one
the value. -/
def toValue (ofNumber : List Char → Value) : Json → Value
  | null => .null
  | bool truth => .bool truth
  | number lexeme => ofNumber lexeme
  | text content => .text content
  | array items => .list (toValues ofNumber items)
  | object members => Value.mapOfPairs (toPairs ofNumber members)

/-- The values of the items of an array. -/
def toValues (ofNumber : List Char → Value) : List Json → List Value
  | [] => []
  | item :: items => item.toValue ofNumber :: toValues ofNumber items

/-- The members of an object as pairs of values. -/
def toPairs (ofNumber : List Char → Value) :
    List (Text × Json) → List (Value × Value)
  | [] => []
  | (name, member) :: members =>
      (.text name, member.toValue ofNumber) :: toPairs ofNumber members

end

end Json
end VestingContract
