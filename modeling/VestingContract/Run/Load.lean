import VestingContract.Config.Read
import VestingContract.Run.World
import VestingContract.Yaml.Construct

/-!
# Loading files

Datasets, configurations and documents from files.  A file that is not there
is told from a file that cannot be read, and what is found is logged.
-/

namespace VestingContract

/-- The dataset in a file. -/
def Dataset.load (path : PathName) : Action Dataset := do
  let logger := "allocgen.dataset.loader"
  if !(← Action.onFiles (FileAction.pathExists path)) then
    throw (.files (.file (.missing .dataset path.toText)))
  Action.log 20 logger "Loading allocations from %s" [.text path.toText]
  match ofBytes (← Action.onFiles (FileAction.read path)) with
  | .error fault => throw (Failure.ofContent path.toText fault)
  | .ok dataset =>
      Action.log 10 logger "Loaded %d categories (%d entries) from %s"
        [.int dataset.length, .int dataset.total, .text path.toText]
      return dataset

/-- The value of the document in a file. -/
def Yaml.loadFile (path : PathName) : Action Value := do
  let interpreter := (← get).platform.interpreter
  if !(← Action.onFiles (FileAction.isFile path)) then
    throw (.files (.file (.missing .document path.toText)))
  match Yaml.load interpreter (← Action.onFiles (FileAction.read path)) with
  | .error fault => throw (.document fault)
  | .ok value => return value

namespace Configuration

/-- A document that breaks the rules of its notation is a fault of the
configuration that it should hold. -/
def failureIn (path : PathName) : Failure → Failure
  | .document .malformed => .configuration (.malformed path)
  | failure => failure

/-- The configuration in a file, by default in the one that is shipped. -/
def load (given : Option PathName) : Action Configuration := do
  let world ← get
  let path := given.getD world.shipped
  if !(← Action.onFiles (FileAction.pathExists path)) then
    throw (.files (.file (.missing .configuration path.toText)))
  Action.log 10 "allocgen.configs.loader" "Loading configuration from %s"
    [.text path.toText]
  let value ← tryCatch (Yaml.loadFile path) fun failure =>
    throw (failureIn path failure)
  match ofValue world.platform.interpreter.texts path value with
  | .error error => throw (.ofReading error)
  | .ok configuration => return configuration

end Configuration
end VestingContract
