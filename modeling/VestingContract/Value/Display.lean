import VestingContract.Value.Basic

/-!
# Values as text

Every value has a quoted text, in which texts stand between quote marks, and
a displayed text, in which a text stands for itself.  Integers of too many
digits have neither, nor have containers that enclose each other too deeply.
The items of a set stand in the order in which the set is walked through.
-/

namespace VestingContract

/-- Why a value has no text. -/
inductive ShowFault where
  | unspellable (fault : UnspellableWhole)
  | tooDeep
  deriving DecidableEq, Repr

def ShowFault.message : ShowFault → Text
  | unspellable fault => fault.message
  | tooDeep =>
      "maximum recursion depth exceeded while getting the repr of an object"

/-- An integer as a part of a shown value. -/
def showWhole (whole : Int) : Except ShowFault Text :=
  (spellWhole whole).mapError .unspellable

/-- A moment's distance from universal time as it is quoted. -/
def quotedOffset (seconds : Int) : Text :=
  if seconds = 0 then
    "datetime.timezone.utc"
  else
    "datetime.timezone(" ++ spanText seconds ++ ")"

def Date.quoted (date : Date) : Text :=
  "datetime.date(" ++ Text.join ", "
    ([date.year, date.month, date.day].map Text.ofNat) ++ ")"

/-- A moment as it is quoted; seconds and microseconds are left out where
nothing but zeros would follow. -/
def Moment.quoted (moment : Moment) : Text :=
  let numbers := [moment.date.year, moment.date.month, moment.date.day,
    moment.hour, moment.minute]
  let seconds :=
    if moment.microsecond ≠ 0 then [moment.second, moment.microsecond]
    else if moment.second ≠ 0 then [moment.second]
    else []
  let offset : List Text :=
    match moment.offset with
    | none => []
    | some seconds => ["tzinfo=" ++ quotedOffset seconds]
  "datetime.datetime(" ++ Text.join ", "
    ((numbers ++ seconds).map Text.ofNat ++ offset) ++ ")"

/-- The quoted text of a number that kept its spelling. -/
def quotedLiteral (lexeme : Text) : Text :=
  "NumberLiteral(" ++ lexeme.quoted ++ ")"

/-- A truth value as it is displayed. -/
def displayedBool (truth : Bool) : Text :=
  if truth then "True" else "False"

def Token.quoted : Token → Except ShowFault Text
  | bool truth => .ok (displayedBool truth)
  | int whole => showWhole whole
  | text content => .ok content.quoted
  | number lexeme => .ok (quotedLiteral lexeme)

/-- The fields of an entry with an equals sign between name and value. -/
def Entry.quotedFields (entry : Entry) : Except ShowFault (List Text) :=
  entry.shownFields.mapM fun field => do
    return field.1 ++ "=" ++ (← field.2.quoted)

namespace Value

/-- Items between brackets, with commas between them. -/
def bracketed (opening closing : Text) (items : List Text) : Text :=
  opening ++ Text.join ", " items ++ closing

/-- Show what a container holds, if there is room for one more container. -/
def inside {α : Type} (room : Nat) (shown : Nat → Except ShowFault α) :
    Except ShowFault α :=
  match room with
  | 0 => .error .tooDeep
  | room + 1 => shown room

mutual

/-- The quoted text of a value.  There is room for some containers inside each
other. -/
def quoted (room : Nat) : Value → Except ShowFault Text
  | null => .ok "None"
  | bool truth => .ok (displayedBool truth)
  | int whole => showWhole whole
  | float number => .ok number.toText
  | decimal number => .ok ("Decimal('" ++ number.toText ++ "')")
  | literal lexeme => .ok (quotedLiteral lexeme)
  | text content => .ok content.quoted
  | bytes octets => .ok (quotedBytes octets)
  | list items => inside room fun room => do
      return bracketed "[" "]" (← quotedItems room items)
  | tuple items => inside room fun room => do
      match ← quotedItems room items with
      | [item] => return "(" ++ item ++ ",)"
      | items => return bracketed "(" ")" items
  | set items => inside room fun room => do
      match ← quotedItems room items with
      | [] => return "set()"
      | items => return bracketed "\x7b" "\x7d" items
  | map pairs => inside room fun room => do
      return bracketed "\x7b" "\x7d" (← quotedPairs room pairs)
  | date day => .ok day.quoted
  | moment time => .ok time.quoted
  | entry record => do
      return bracketed "AllocationEntry(" ")" (← record.quotedFields)
  | cycle .list => .ok "[...]"
  | cycle .set => .ok "set(...)"
  | cycle .map => .ok "\x7b...\x7d"

def quotedItems (room : Nat) : List Value → Except ShowFault (List Text)
  | [] => .ok []
  | item :: items => do
      let head ← item.quoted room
      return head :: (← quotedItems room items)

/-- The quoted texts of pairs, a colon between key and value. -/
def quotedPairs (room : Nat) :
    List (Value × Value) → Except ShowFault (List Text)
  | [] => .ok []
  | (key, value) :: pairs => do
      let keyText ← key.quoted room
      let valueText ← value.quoted room
      return (keyText ++ ": " ++ valueText) :: (← quotedPairs room pairs)

end

/-- The displayed text of a value. -/
def display (room : Nat) : Value → Except ShowFault Text
  | decimal number => .ok number.toText
  | literal lexeme => .ok lexeme
  | text content => .ok content
  | date day => .ok day.toText
  | moment time => .ok time.toText
  | entry record => do
      return Text.join " " (← record.quotedFields)
  | value => value.quoted room

/-- The number of containers inside each other that records, locations and
reported exceptions have room for.  It stands for what is left of the stack
there: always room for 400, and never for more than 4000. -/
def shownRoom : Nat := 980

end Value
end VestingContract
