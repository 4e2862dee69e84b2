import VestingContract.Value.Display

/-!
# Writing JSON documents

A value is written on one line in printable ASCII, with a comma and a space
between items and a colon and a space behind names.  A value that the notation
does not know is written as the text that displays it.
-/

namespace VestingContract
namespace Json

/-- Why a value cannot be written. -/
inductive WriteFault where
  | unspellable (fault : ShowFault)
  | keyKind (kind : Text)
  deriving DecidableEq, Repr

def WriteFault.message : WriteFault → Text
  | unspellable fault => fault.message
  | keyKind kind =>
      "keys must be str, int, float, bool or None, not " ++ kind

def unitEscape (unit : Nat) : Text :=
  "\\u" ++ Text.ofHex 4 unit

/-- One code point as it is written inside a text. -/
def escaped (codePoint : CodePoint) : Text :=
  match codePoint with
  | .scalar '"' => "\\\""
  | .scalar '\\' => "\\\\"
  | .scalar '\n' => "\\n"
  | .scalar '\r' => "\\r"
  | .scalar '\t' => "\\t"
  | .scalar '\x0c' => "\\f"
  | .scalar '\x08' => "\\b"
  | codePoint =>
      let number := codePoint.value
      if 0x20 ≤ number ∧ number ≤ 0x7E then
        [codePoint]
      else if number < 0x10000 then
        unitEscape number
      else
        unitEscape (0xD800 + (number - 0x10000) / 0x400) ++
          unitEscape (0xDC00 + (number - 0x10000) % 0x400)

def writeText (content : Text) : Text :=
  [CodePoint.scalar '"'] ++ content.flatMap escaped ++ [CodePoint.scalar '"']

/-- A double; infinities and what is not a number have names. -/
def writeBinary64 : Binary64 → Text
  | .notANumber => "NaN"
  | .infinite negative => if negative then "-Infinity" else "Infinity"
  | number => number.toText

/-- An integer within the limit of digits. -/
def writeWhole (whole : Int) : Except WriteFault Text :=
  (showWhole whole).mapError .unspellable

def writeBool (truth : Bool) : Text :=
  if truth then "true" else "false"

/-- The name that a key is written as. -/
def nameOfKey : Value → Except WriteFault Text
  | .text content => .ok content
  | .float number => .ok (writeBinary64 number)
  | .bool truth => .ok (writeBool truth)
  | .null => .ok "null"
  | .int whole => writeWhole whole
  | key => .error (.keyKind key.kind)

end Json

open Json in
mutual

def Value.toJson : Value → Except WriteFault Text
  | .null => .ok "null"
  | .bool truth => .ok (writeBool truth)
  | .int whole => writeWhole whole
  | .float number => .ok (writeBinary64 number)
  | .text content => .ok (writeText content)
  | .list items | .tuple items => do
      return Value.bracketed "[" "]" (← Value.toJsonItems items)
  | .map pairs => do
      return Value.bracketed "\x7b" "\x7d" (← Value.toJsonMembers pairs)
  | value => do
      return writeText
        (← (value.display Value.shownRoom).mapError .unspellable)

/-- The items of a sequence as documents. -/
def Value.toJsonItems : List Value → Except WriteFault (List Text)
  | [] => .ok []
  | item :: items => do
      let head ← item.toJson
      return head :: (← Value.toJsonItems items)

/-- The pairs of a mapping as members. -/
def Value.toJsonMembers :
    List (Value × Value) → Except WriteFault (List Text)
  | [] => .ok []
  | (key, value) :: pairs => do
      let name ← nameOfKey key
      let member ← value.toJson
      return (writeText name ++ ": " ++ member) ::
        (← Value.toJsonMembers pairs)

end

end VestingContract
