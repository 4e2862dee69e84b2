import VestingContract.Value.Basic

/-!
# Keys of mappings

Which values can be keys, when two keys are the same, and how a mapping takes
in one more pair.  Numbers of different kinds are the same key if they are
equal; what is not a number is never the same as anything.
-/

namespace VestingContract

/-- Why a value cannot be a key. -/
inductive KeyFault where
  | mutable (kind : Text)
  | signalingNotANumber
  deriving DecidableEq, Repr

def KeyFault.message : KeyFault → Text
  | mutable kind => "unhashable type: '" ++ kind ++ "'"
  | signalingNotANumber => "Cannot hash a signaling NaN value"

/-- The value of a number of any kind. -/
inductive NumericValue where
  | notANumber
  | infinite (negative : Bool)
  | finite (exact : ExactDecimal)
  deriving DecidableEq, Repr

namespace NumericValue

def ofBinary64 (number : Binary64) : NumericValue :=
  match number with
  | .notANumber => notANumber
  | .infinite negative => infinite negative
  | number =>
      match ExactDecimal.ofBinary64? number with
      | some exact => finite exact
      | none => notANumber

def ofDecimal (number : Decimal) : NumericValue :=
  match number with
  | .notANumber .. => notANumber
  | .infinite negative => infinite negative
  | number =>
      match ExactDecimal.ofDecimal? number with
      | some exact => finite exact
      | none => notANumber

/-- Equality of values; what is not a number equals nothing. -/
def same : NumericValue → NumericValue → Bool
  | notANumber, _ => false
  | left, right => left == right

end NumericValue

namespace Value

/-- The value of a number; truth values count as one and zero. -/
def numeric? : Value → Option NumericValue
  | bool truth => some (.finite (.ofInt (if truth then 1 else 0)))
  | int whole => some (.finite (.ofInt whole))
  | float number => some (.ofBinary64 number)
  | decimal number => some (.ofDecimal number)
  | _ => none

mutual

/-- Two values are the same key. -/
def sameKey : Value → Value → Bool
  | null, null => true
  | literal left, literal right => left == right
  | text left, text right => left == right
  | bytes left, bytes right => left == right
  | date left, date right => left == right
  | moment left, moment right => left.same right
  | entry left, entry right => left == right
  | tuple left, tuple right => sameKeys left right
  | left, right =>
      match left.numeric?, right.numeric? with
      | some left, some right => left.same right
      | _, _ => false

/-- Two sequences hold the same keys in the same order. -/
def sameKeys : List Value → List Value → Bool
  | [], [] => true
  | left :: lefts, right :: rights =>
      left.sameKey right && sameKeys lefts rights
  | _, _ => false

end

mutual

/-- Why a value cannot be a key, if it cannot. -/
def keyFault? : Value → Option KeyFault
  | list items => some (.mutable (list items).kind)
  | set items => some (.mutable (set items).kind)
  | map pairs => some (.mutable (map pairs).kind)
  | cycle container => some (.mutable (cycle container).kind)
  | decimal (.notANumber _ true _) => some .signalingNotANumber
  | tuple items => keyFaults? items
  | _ => none

/-- Why the first of several values that cannot be a key cannot be one. -/
def keyFaults? : List Value → Option KeyFault
  | [] => none
  | item :: items =>
      match item.keyFault? with
      | some fault => some fault
      | none => keyFaults? items

end

/-- Add a pair to a mapping.  A key that is there already keeps its place and
its spelling and gets the new value. -/
def insertPair (key value : Value) :
    List (Value × Value) → List (Value × Value)
  | [] => [(key, value)]
  | pair :: pairs =>
      if pair.1.sameKey key then
        (pair.1, value) :: pairs
      else
        pair :: insertPair key value pairs

/-- The mapping that pairs build one after the other. -/
def mapOfPairs (pairs : List (Value × Value)) : Value :=
  map (pairs.foldl (fun mapping pair =>
    insertPair pair.1 pair.2 mapping) [])

/-- The value of a text key. -/
def lookup? (key : Text) : List (Value × Value) → Option Value
  | [] => none
  | (text found, value) :: pairs =>
      if found = key then some value else lookup? key pairs
  | _ :: pairs => lookup? key pairs

end Value
end VestingContract
