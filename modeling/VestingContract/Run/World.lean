import VestingContract.Log.ExceptionReport
import VestingContract.Log.State
import VestingContract.Run.Failure
import VestingContract.Run.Platform

/-!
# Worlds

What a run sees and changes: the platform and its files, the state of logging
and the two output streams.  A record that is written changes the log files
and the error stream and nothing else.
-/

namespace VestingContract

/-- The uses of a source or a sink in memory, which an observer can tell. -/
inductive EndpointUse where
  | load (path : PathName)
  | write (path : PathName) (length : Nat)
  deriving DecidableEq, Repr

/-- What a run sees and changes. -/
structure World where
  files : FileTree
  logging : LogState
  output : Text
  errors : Text
  uses : List EndpointUse
  clock : Value
  terminal : Bool
  shipped : PathName
  platform : Platform := .plain

namespace World

def print (world : World) (text : Text) : World :=
  { world with output := world.output ++ text }

def report (world : World) (text : Text) : World :=
  { world with errors := world.errors ++ text }

/-- Write a record to a handler.  A record without a line, or whose line has
no encoding, is left out: its fault stays with the handler. -/
def deliver (record : Record) (world : World) : Handler → World
  | .console colored =>
      match record.line (.people colored) world.logging.context with
      | .ok line => world.report (line ++ "\n")
      | .error _ => world
  | .file identity style =>
      match record.line style world.logging.context with
      | .ok line =>
          match Utf8.encode (line ++ "\n") with
          | .ok bytes =>
              { world with files := world.files.append identity bytes }
          | .error _ => world
      | .error _ => world
  | .foreign _ => world

/-- Write a record of a level to all handlers.  Without a handler, warnings
and worse are printed. -/
def emit (world : World) (level : Int) (record : Record) : World :=
  if !world.logging.isEnabled level then
    world
  else if world.logging.handlers.isEmpty then
    match decide (warningLevel ≤ level), record.bareLine with
    | true, .ok line => world.report (line ++ "\n")
    | _, _ => world
  else
    world.logging.handlers.foldl (deliver record) world

/-- A record of this moment. -/
def record (world : World) (level : Int) (logger message : Text)
    (arguments : Arguments) (exception : Option Text) : Record where
  created := world.clock
  levelName := levelName level
  logger := logger
  message := message
  arguments := arguments
  exception := exception

/-- Write a message with arguments to the log. -/
def log (world : World) (level : Int) (logger message : Text)
    (arguments : List Value) : World :=
  world.emit level
    (world.record level logger message (.ofCall arguments) none)

/-- The line that a warning about a place in a file is shown as. -/
def warningLine (file : Text) (line : Int) (message : Text) : Text :=
  file ++ ":" ++ Text.ofInt line ++ ": UserWarning: " ++ message ++ "\n"

/-- A warning is a record if warnings are captured, and is printed if they
are not. -/
def warn (world : World) (shown : Text) : World :=
  if world.logging.capturesWarnings then
    if world.logging.handlers.isEmpty then world
    else world.log warningLevel "py.warnings" shown []
  else
    world.report shown

/-- An exception that nobody caught is a record if such exceptions are
reported, and is printed if they are not.  An interrupt is always printed. -/
def uncaught (world : World) (exception : ExceptionReport) : World :=
  if world.logging.reportsUncaught ∧ exception.kind ≠ .interrupt then
    world.emit 50 (world.record 50 "allocgen.utils.logging_config"
      "Uncaught exception" (.sequence []) (some exception.formatted))
  else
    world.report (exception.formatted ++ "\n")

end World

/-- Work in a world that may fail.  What was done before a failure stays. -/
abbrev Action (α : Type) := ExceptT Failure (StateM World) α

namespace Action

/-- Work on the files of a world. -/
def onFiles {α : Type} (work : FileAction α) : Action α := do
  let world ← get
  match work.run world.files with
  | (.ok value, files) => do
      set { world with files := files }
      return value
  | (.error failure, files) => do
      set { world with files := files }
      throw (.files failure)

/-- Write a message with arguments to the log. -/
def log (level : Int) (logger message : Text) (arguments : List Value) :
    Action Unit :=
  modify fun world => world.log level logger message arguments

/-- Print a text.  The output stream is in UTF-8, and of a text without an
encoding nothing is printed. -/
def print (text : Text) : Action Unit := do
  match Utf8.encode text with
  | .error fault => throw (.printing fault)
  | .ok _ => modify fun world => world.print text

end Action
end VestingContract
