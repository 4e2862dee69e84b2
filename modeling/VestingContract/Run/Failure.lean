import VestingContract.Config.Fault
import VestingContract.Contract.Render
import VestingContract.Dataset.Document
import VestingContract.File.Action

/-!
# Failures of runs

Everything that can end a run early, with its wording.
-/

namespace VestingContract

/-- Why a run ends early. -/
inductive Failure where
  | dataset (source : Text) (fault : DocumentFault)
  | tooDeep (container : Json.Container)
  | configuration (fault : ConfigFault)
  | document (fault : Yaml.Fault)
  | reading (error : ReadingError)
  | rendering (fault : RenderFault)
  | files (failure : FileFailure)
  | printing (fault : Utf8.EncodeFault)
  | unknownLevel (name : Text)
  | unnamedField
  deriving DecidableEq, Repr

/-- The wording of a failure of work on files. -/
def FileFailure.message : FileFailure → Text
  | .file fault => fault.message
  | .path fault => fault.message
  | .encoding fault => fault.message

namespace Failure

/-- The failure of a source. -/
def ofContent (source : Text) : ContentFault → Failure
  | .document fault => dataset source fault
  | .tooDeep container => tooDeep container

/-- The failure of the reading of a configuration. -/
def ofReading : ReadingError → Failure
  | .refused fault => configuration fault
  | error => reading error

def message : Failure → Text
  | dataset source fault => fault.message source
  | tooDeep container =>
      "maximum recursion depth exceeded while decoding a JSON " ++
        containerName container ++ " from a unicode string"
  | configuration fault => fault.message
  | document fault => fault.message
  | reading error => error.message
  | rendering fault => fault.message
  | files failure => failure.message
  | printing fault => fault.message
  | unknownLevel name => "Unknown log level: " ++ name
  | unnamedField => "keywords must be strings"
where
  /-- The name of a container. -/
  containerName : Json.Container → Text
    | .array => "array"
    | .object => "object"

end Failure
end VestingContract
