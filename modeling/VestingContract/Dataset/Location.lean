import VestingContract.Value.Display

/-!
# Locations inside a dataset

A location leads from the top of a dataset to one of its parts by names and
positions.  It is written as a path: positions in brackets, a point in front
of every name but the first.
-/

namespace VestingContract

/-- One step of a location. -/
inductive LocationPart where
  | index (position : Int)
  | flag (truth : Bool)
  | name (name : Text)
  deriving DecidableEq, Repr

namespace LocationPart

/-- The text of a location that is extended by one step. -/
def appendTo (before : Text) : LocationPart → Text
  | index position => before ++ "[" ++ Text.ofInt position ++ "]"
  | flag truth => before ++ "[" ++ displayedBool truth ++ "]"
  | name content =>
      if before.isEmpty then content else before ++ "." ++ content

/-- A value as a step: a number is a position, all else a name. -/
def ofValue : Value → Except ShowFault LocationPart
  | .int whole => do
      let _ ← showWhole whole
      return index whole
  | .bool truth => .ok (flag truth)
  | value => name <$> value.display Value.shownRoom

end LocationPart

/-- A location as a path; the empty path is the top of the dataset.  Its
positions are those of lists or have been made from integers that have a
text. -/
def locationText (location : List LocationPart) : Text :=
  let path := location.foldl LocationPart.appendTo []
  if path.isEmpty then "<top level>" else path

/-- A row of values as the path of a location, if all of them have texts. -/
def locationTextOf (values : List Value) : Except ShowFault Text :=
  locationText <$> values.mapM LocationPart.ofValue

end VestingContract
