import VestingContract.Calendar.Date
import VestingContract.Dataset.Entry

/-!
# Decoded values

What a decoded document or a caller hands over: scalars of every kind,
sequences, sets and mappings.  A mapping is a list of pairs in order.
-/

namespace VestingContract

/-- The kinds of containers that documents can put inside themselves. -/
inductive ContainerKind where
  | list
  | set
  | map
  deriving DecidableEq, Repr

/-- A decoded value.  A container inside itself is known by its kind only. -/
inductive Value where
  | null
  | bool (truth : Bool)
  | int (whole : Int)
  | float (number : Binary64)
  | decimal (number : Decimal)
  | literal (lexeme : Text)
  | text (content : Text)
  | bytes (octets : List UInt8)
  | list (items : List Value)
  | tuple (items : List Value)
  | set (items : List Value)
  | map (pairs : List (Value × Value))
  | date (day : Date)
  | moment (time : Moment)
  | entry (record : Entry)
  | cycle (container : ContainerKind)
  deriving Repr, Inhabited

namespace Value

def ofToken : Token → Value
  | .bool truth => bool truth
  | .int number => int number
  | .text content => text content
  | .number lexeme => literal lexeme

/-- The name of a value's kind in messages. -/
def kind : Value → Text
  | null => "NoneType"
  | bool _ => "bool"
  | int _ => "int"
  | float _ => "float"
  | decimal _ => "Decimal"
  | literal _ => "NumberLiteral"
  | text _ => "str"
  | bytes _ => "bytes"
  | list _ => "list"
  | tuple _ => "tuple"
  | set _ => "set"
  | map _ => "dict"
  | date _ => "date"
  | moment _ => "datetime"
  | entry _ => "AllocationEntry"
  | cycle .list => "list"
  | cycle .set => "set"
  | cycle .map => "dict"

/-- The name of a value's kind, with the family of the calendar and decimal
kinds in front. -/
def qualifiedKind : Value → Text
  | decimal _ => "decimal.Decimal"
  | date _ => "datetime.date"
  | moment _ => "datetime.datetime"
  | value => value.kind

/-- Absent, zero and empty values count as false. -/
def isTruthy : Value → Bool
  | null => false
  | bool truth => truth
  | int number => number != 0
  | float number => !number.isZero
  | decimal (.finite _ coefficient _) => coefficient != 0
  | decimal _ => true
  | literal _ => true
  | text content => !content.isEmpty
  | bytes octets => !octets.isEmpty
  | list items => !items.isEmpty
  | tuple items => !items.isEmpty
  | set items => !items.isEmpty
  | map pairs => !pairs.isEmpty
  | date _ => true
  | moment _ => true
  | entry _ => true
  | cycle _ => true

end Value

/-- The fields of an entry under the names that its own text shows. -/
def Entry.shownFields (entry : Entry) : List (Text × Token) :=
  [("address", entry.address),
    ("allocation_at_start_date", entry.amountAtStart),
    ("allocation_at_end_date", entry.amountAtEnd),
    ("start_date", entry.startDate),
    ("end_date", entry.endDate)]

end VestingContract
