import VestingContract.Contract.Template
import VestingContract.File.PathName

/-!
# Configurations

What a run needs to know: where the dataset is, where the contract goes, the
names in the contract, and how to log.
-/

namespace VestingContract

/-- How a run logs. -/
structure LogOptions where
  level : Text
  file : Option Text
  json : Bool
  deriving DecidableEq, Repr

/-- Records from information on, without a file. -/
def LogOptions.standard : LogOptions where
  level := "INFO"
  file := none
  json := false

/-- The configuration of a run. -/
structure Configuration where
  input : PathName
  output : PathName
  template : Template
  logging : LogOptions
  deriving DecidableEq, Repr

/-- A configuration with other paths, as far as they are given. -/
def Configuration.withPaths (configuration : Configuration)
    (input output : Option PathName) : Configuration :=
  { configuration with
    input := input.getD configuration.input
    output := output.getD configuration.output }

end VestingContract
