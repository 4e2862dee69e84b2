import VestingContract.Run.World
import VestingContract.Text.Case

/-!
# Setting up logging

A setup replaces the handlers of the one before.  The name of the level is
looked at first; a log file that cannot be opened leaves logging without the
handlers of either setup.
-/

namespace VestingContract
namespace Action

/-- Open a log file behind an absolute path, making the directories above
it. -/
def openLogFile (path : PathName) : Action Nat := do
  onFiles (FileAction.ensureDirectory path.parent)
  let target := (← get).files.absolute path
  onFiles (FileAction.openToAppend target)

/-- The handler of a log file, if one is named. -/
def fileHandler (file : Option Text) (json : Bool) :
    Action (List Handler) := do
  match file with
  | none | some [] => return []
  | some name =>
      let identity ← openLogFile (PathName.ofText name)
      return [.file identity (if json then .json else .people false)]

/-- Change the state of logging. -/
def onLogging (change : LogState → LogState) : Action Unit :=
  modify fun world => { world with logging := change world.logging }

/-- Add the fields that pairs give to every record from now on. -/
def pushContext (fields : List (Value × Value)) : Action Unit := do
  match LogContext.ofPairs? fields with
  | none => throw .unnamedField
  | some fields => onLogging fun state => state.push fields

/-- Log from a level on to the error stream and, on demand, to a file.  The
result is the handlers that have been attached. -/
def setUpLogging (levelText : Text) (file : Option Text) (json : Bool)
    (fields : List (Value × Value)) : Action (List Handler) := do
  match levelOfName? levelText.toUpper with
  | none => throw (.unknownLevel levelText)
  | some level =>
      onLogging LogState.withoutInstalled
      let console := Handler.console (← get).terminal
      let handlers := console :: (← fileHandler file json)
      onLogging fun state => state.install level handlers
      pushContext fields
      onLogging fun state => { state with capturesWarnings := true }
      return handlers

/-- Report exceptions that nobody catches. -/
def reportUncaught : Action Unit :=
  onLogging fun state => { state with reportsUncaught := true }

end Action
end VestingContract
