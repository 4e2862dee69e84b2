import VestingContract.Dataset.Location
import VestingContract.Text.Utf8
import VestingContract.Value.Key

/-!
# Validation of datasets

A decoded value is a dataset if it maps names to lists of records that have a
literal in each of the five fields.  Whatever is wrong is collected in order:
by category, then by entry, then by field.
-/

namespace VestingContract

/-- What is wrong at a location. -/
inductive ViolationReason where
  | missing
  | notARecord
  | notAList
  | notAName
  | undecodableName
  | nonFinite (number : Text)
  | notALiteral (kind : Text)
  deriving DecidableEq, Repr

def ViolationReason.message : ViolationReason → Text
  | missing => "Field required"
  | notARecord =>
      "Input should be a valid dictionary or instance of AllocationEntry"
  | notAList => "Input should be a valid list"
  | notAName => "Input should be a valid string"
  | undecodableName =>
      "Input should be a valid string, " ++
        "unable to parse raw data as a unicode string"
  | nonFinite number =>
      "Value error, non-finite number " ++ number ++ " cannot be emitted"
  | notALiteral kind =>
      "Value error, expected a string, number or boolean literal, got " ++
        kind

/-- One thing that is wrong. -/
structure Violation where
  location : List LocationPart
  reason : ViolationReason
  deriving DecidableEq, Repr

namespace Violation

/-- A violation of a part, seen from the whole. -/
def under (part : LocationPart) (violation : Violation) : Violation :=
  { violation with location := part :: violation.location }

/-- The path of a violation and its reason. -/
def message (violation : Violation) : Text :=
  locationText violation.location ++ ": " ++ violation.reason.message

end Violation

/-- Violations in order, separated by semicolons. -/
def violationsText (violations : List Violation) : Text :=
  Text.join "; " (violations.map Violation.message)

/-- The violations of a result, none if there is a value. -/
def violationsOf {α : Type} : Except (List Violation) α → List Violation
  | .ok _ => []
  | .error violations => violations

/-- A value as a token.  Numbers without a spelling of their own get one. -/
def Token.ofValue : Value → Except ViolationReason Token
  | .bool truth => .ok (.bool truth)
  | .int whole => .ok (.int whole)
  | .text content => .ok (.text content)
  | .literal lexeme => .ok (.number lexeme)
  | .float double =>
      if double.isFinite then .ok (.number double.toText)
      else .error (.nonFinite double.toText)
  | .decimal decimal =>
      if decimal.isFinite then .ok (.number decimal.toText)
      else .error (.nonFinite decimal.toText)
  | value => .error (.notALiteral value.kind)

namespace Entry

/-- The names of the fields in documents, in the order of checking. -/
def fieldNames : List Text :=
  ["address", "allocationAtStartDate", "allocationAtEndDate", "startDate",
    "endDate"]

/-- The token in a field of a record. -/
def field (pairs : List (Value × Value)) (name : Text) :
    Except ViolationReason Token :=
  match Value.lookup? name pairs with
  | none => .error .missing
  | some value => Token.ofValue value

/-- The violations of the fields of a record. -/
def fieldViolations (pairs : List (Value × Value)) : List Violation :=
  fieldNames.filterMap fun name =>
    match field pairs name with
    | .ok _ => none
    | .error reason => some ⟨[.name name], reason⟩

/-- The entry of a record in which every field holds a token. -/
def ofFields? (pairs : List (Value × Value)) : Option Entry :=
  match fieldNames.map (field pairs) with
  | [.ok address, .ok amountAtStart, .ok amountAtEnd, .ok startDate,
      .ok endDate] =>
      some ⟨address, amountAtStart, amountAtEnd, startDate, endDate⟩
  | _ => none

/-- A value as an entry. -/
def ofValue : Value → Except (List Violation) Entry
  | .entry record => .ok record
  | .map pairs =>
      match ofFields? pairs with
      | some entry => .ok entry
      | none => .error (fieldViolations pairs)
  | _ => .error [⟨[], .notARecord⟩]

/-- Values at consecutive positions as entries. -/
def ofValues (position : Nat) :
    List Value → Except (List Violation) (List Entry)
  | [] => .ok []
  | value :: values =>
      match ofValue value, ofValues (position + 1) values with
      | .ok entry, .ok entries => .ok (entry :: entries)
      | first, rest =>
          .error ((violationsOf first).map
              (.under (.index position)) ++ violationsOf rest)

end Entry

/-- The items that a value lists.  A record lists its fields. -/
def Value.listed? : Value → Option (List Value)
  | .list items | .tuple items | .set items => some items
  | .entry record =>
      some (record.shownFields.map fun field =>
        .tuple [.text field.1, .ofToken field.2])
  | _ => none

/-- A value as the entries of a category. -/
def entriesOf (value : Value) : Except (List Violation) (List Entry) :=
  match value.listed? with
  | some items => Entry.ofValues 0 items
  | none => .error [⟨[], .notAList⟩]

/-- The name of a category, which may be given as bytes. -/
def categoryName : Value → Except ViolationReason Text
  | .text content => .ok content
  | .bytes octets =>
      match Utf8.decode octets with
      | .ok chars => .ok (Text.ofChars chars)
      | .error _ => .error .undecodableName
  | _ => .error .notAName

/-- A text with three replacement characters for each lone surrogate, one
for each of the bytes that would spell it. -/
def replaceSurrogates (text : Text) : Text :=
  text.flatMap fun
    | .scalar char => [.scalar char]
    | .surrogate _ => List.replicate 3 (.scalar '\uFFFD')

/-- The step of a location that leads to the value of a key. -/
def LocationPart.ofKey : Value → LocationPart
  | .text content => name (replaceSurrogates content)
  | .bool truth => index (if truth then 1 else 0)
  | .int whole =>
      if fitsSigned 64 whole then
        index whole
      else
        name (quotedKey (.int whole))
  | key => name (quotedKey key)
where
  /-- The quoted text of a key. -/
  quotedKey (key : Value) : Text :=
    match key.quoted Value.shownRoom with
    | .ok content => replaceSurrogates content
    | .error _ => "<unprintable " ++ key.kind ++ " object>"

namespace Dataset

/-- A dataset with the entries of one more category.  A category that is
there already keeps its place and gets the new entries. -/
def insert (category : Text) (entries : List Entry) : Dataset → Dataset
  | [] => [(category, entries)]
  | first :: rest =>
      if first.1 = category then
        (category, entries) :: rest
      else
        first :: insert category entries rest

/-- The violations of one category: of its name, then of its entries. -/
def categoryViolations (pair : Value × Value) : List Violation :=
  let part := LocationPart.ofKey pair.1
  let ofName : List Violation :=
    match categoryName pair.1 with
    | .ok _ => []
    | .error reason => [⟨[part, .name "[key]"], reason⟩]
  ofName ++ (violationsOf (entriesOf pair.2)).map (.under part)

def violations (pairs : List (Value × Value)) : List Violation :=
  pairs.flatMap categoryViolations

/-- The valid categories of a mapping in order. -/
def ofPairs (pairs : List (Value × Value)) : Dataset :=
  pairs.foldl (fun dataset pair =>
    match categoryName pair.1, entriesOf pair.2 with
    | .ok category, .ok entries => dataset.insert category entries
    | _, _ => dataset) []

end Dataset

/-- Why a decoded value is no dataset. -/
inductive DatasetFault where
  | notAMapping (kind : Text)
  | invalid (violations : List Violation)
  deriving DecidableEq, Repr

/-- The wording of a fault behind the name of the source. -/
def DatasetFault.message : DatasetFault → Text
  | notAMapping kind =>
      "expected a JSON object of categories, got " ++ kind
  | invalid violations => violationsText violations

/-- A decoded value as a dataset. -/
def Dataset.ofValue : Value → Except DatasetFault Dataset
  | .map pairs =>
      match violations pairs with
      | [] => .ok (ofPairs pairs)
      | found => .error (.invalid found)
  | value => .error (.notAMapping value.kind)

end VestingContract
