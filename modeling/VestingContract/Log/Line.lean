import VestingContract.Json.Writer
import VestingContract.Log.MessageFormat
import VestingContract.Log.Stamp

/-!
# Log lines

A record is written as a line for people, its parts separated by bars, or as
a JSON object on one line.  The fields of the context are added to both.
-/

namespace VestingContract

/-- The fields that are added to every record, in order. -/
abbrev LogContext := List (Text × Value)

/-- A context with one more field.  A field that is there already keeps its
place and gets the new value. -/
def LogContext.insert (name : Text) (value : Value) :
    LogContext → LogContext
  | [] => [(name, value)]
  | field :: fields =>
      if field.1 = name then (name, value) :: fields
      else field :: LogContext.insert name value fields

/-- A context with the fields of another one added in order. -/
def LogContext.extend (context fields : LogContext) : LogContext :=
  fields.foldl (fun context field =>
    LogContext.insert field.1 field.2 context) context

/-- The fields that the pairs of a mapping give, unless one of them is not
named by a text. -/
def LogContext.ofPairs? (pairs : List (Value × Value)) :
    Option LogContext :=
  pairs.mapM fun pair =>
    match pair.1 with
    | .text name => some (name, pair.2)
    | _ => none

/-- A message on its way to the log.  An exception that it tells of has been
put into words already. -/
structure Record where
  created : Value
  levelName : Text
  logger : Text
  message : Text
  arguments : Arguments
  exception : Option Text
  deriving Repr

/-- Why a record has no line. -/
inductive LineFault where
  | stamp (fault : StampFault)
  | formatting (fault : FormatFault)
  | context (fault : ShowFault)
  | document (fault : Json.WriteFault)
  deriving DecidableEq, Repr

def LineFault.message : LineFault → Text
  | stamp fault => fault.message
  | formatting fault => fault.message
  | context fault => fault.message
  | document fault => fault.message

/-- The two ways to write a line. -/
inductive LineStyle where
  | people (colored : Bool)
  | json
  deriving DecidableEq, Repr

def levelNames : List (Int × Text) :=
  [(50, "CRITICAL"), (40, "ERROR"), (30, "WARNING"), (20, "INFO"),
    (10, "DEBUG"), (0, "NOTSET")]

/-- The name of a level; a level without a name is shown by its number. -/
def levelName (level : Int) : Text :=
  (levelNames.lookup level).getD ("Level " ++ Text.ofInt level)

/-- The level of a name; two levels have a second name. -/
def levelOfName? (name : Text) : Option Int :=
  ((levelNames.map fun entry => (entry.2, entry.1)) ++
    [(("FATAL" : Text), (50 : Int)), (("WARN" : Text), 30)]).lookup name

def levelColors : List (Text × Text) :=
  [("DEBUG", "\x1b[36m"), ("INFO", "\x1b[32m"), ("WARNING", "\x1b[33m"),
    ("ERROR", "\x1b[31m"), ("CRITICAL", "\x1b[35m")]

namespace Record

def messageText (record : Record) : Except LineFault Text :=
  (formatMessage record.message record.arguments).mapError .formatting

/-- The level in its column, in colour on demand. -/
def levelColumn (record : Record) (colored : Bool) : Text :=
  let padded := Text.padRight 8 (.scalar ' ') record.levelName
  match colored, levelColors.lookup record.levelName with
  | true, some color => color ++ padded ++ "\x1b[0m"
  | _, _ => padded

/-- The fields of a context, an equals sign between name and value. -/
def contextText (context : LogContext) : Except LineFault Text := do
  let fields : List Text ← context.mapM fun field => do
    let value : Text ←
      (field.2.display Value.shownRoom).mapError .context
    return field.1 ++ "=" ++ value
  return Text.join " " fields

/-- A record as a line for people.  An exception follows on a line of its
own. -/
def peopleLine (record : Record) (colored : Bool) (context : LogContext) :
    Except LineFault Text := do
  let time ← (stamp record.created).mapError .stamp
  let fields ←
    if context.isEmpty then pure []
    else do pure [← contextText context]
  let message ← record.messageText
  let line := Text.join " | "
    ([time, record.levelColumn colored] ++ fields ++ [message])
  match record.exception with
  | none => return line
  | some exception => return line ++ "\n" ++ exception

/-- The members of a record's JSON object: its own four, those of the
context, and the exception. -/
def members (record : Record) (time message : Text) (context : LogContext) :
    LogContext :=
  let own : LogContext :=
    [("t", .text time), ("lvl", .text record.levelName),
      ("name", .text record.logger), ("msg", .text message)]
  let all := own.extend context
  match record.exception with
  | none => all
  | some exception => LogContext.insert "exc" (.text exception) all

/-- A record as a JSON object. -/
def jsonLine (record : Record) (context : LogContext) :
    Except LineFault Text := do
  let time ← (stamp record.created).mapError .stamp
  let message ← record.messageText
  let fields := record.members time message context
  let document := Value.map (fields.map fun field =>
    (.text field.1, field.2))
  document.toJson.mapError .document

/-- A record in a style. -/
def line (record : Record) (style : LineStyle) (context : LogContext) :
    Except LineFault Text :=
  match style with
  | .people colored => record.peopleLine colored context
  | .json => record.jsonLine context

/-- The bare message of a record, with its exception on a line of its own. -/
def bareLine (record : Record) : Except LineFault Text := do
  let message ← record.messageText
  match record.exception with
  | none | some [] => return message
  | some exception =>
      let separator : Text :=
        if message.getLast? = some (.scalar '\n') then [] else "\n"
      return message ++ separator ++ exception

end Record
end VestingContract
