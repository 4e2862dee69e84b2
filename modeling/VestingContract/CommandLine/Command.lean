import VestingContract.CommandLine.Usage
import VestingContract.Run.LogSetup
import VestingContract.Run.Pipeline

/-!
# The command

One call of the command: its configuration, its logging, its run and its
status.  Failures of the configuration, of the dataset and of the files are
logged and end the call with the status of a failure.
-/

namespace VestingContract

/-- How a call ends.  A call that is misunderstood or asked for help exits
before it begins. -/
inductive Ending where
  | succeeded
  | failed
  | helped
  | misused
  deriving DecidableEq, Repr

/-- The status that the caller of the command gets. -/
def Ending.status : Ending → Nat
  | succeeded | helped => 0
  | failed => 1
  | misused => 2

namespace Failure

/-- The failures that mean that there is no configuration. -/
def isOfConfiguration : Failure → Bool
  | configuration _ | files (.file _) => true
  | _ => false

/-- The message under which a failure of a run is logged. -/
def report? : Failure → Option Text
  | dataset .. => some "Malformed allocation dataset: %s"
  | rendering (.unfilled ..) => some "Contract generation failed: %s"
  | files (.file _) => some "I/O error: %s"
  | _ => none

end Failure

namespace Options

def logger : Text := "allocgen.scripts.generate"

/-- The field that every record of the command has. -/
def logFields : List (Value × Value) :=
  [(.text "app", .text "allocgen")]

/-- Log a failure under a message. -/
def reportFailure (message : Text) (failure : Failure) : Action Ending := do
  Action.log 40 logger message [.text failure.message]
  return .failed

/-- Generate the contract and write it, or print it. -/
def perform (options : Options) (configuration : Configuration)
    (dropped : List Text) : Action Generation := do
  if options.dryRun then
    let generation ← configuration.generate .file dropped
    Action.print generation.text
    return generation
  else
    configuration.run .file .file dropped

/-- The call from its configuration on. -/
def continueWith (options : Options) (configuration : Configuration)
    (dropped : List Text) : Action Ending := do
  let configuration := configuration.withPaths
    (options.input.map PathName.ofText) (options.output.map PathName.ofText)
  let logging := configuration.logging
  let _ ← Action.setUpLogging (options.logLevel.getD logging.level)
    logging.file logging.json logFields
  Action.reportUncaught
  let outcome : Except Failure Generation ←
    tryCatch (.ok <$> options.perform configuration dropped)
      (fun failure => return .error failure)
  match outcome with
  | .ok generation =>
      Action.log 20 logger "Done: %d allocations" [.int generation.total]
      return .succeeded
  | .error failure =>
      match failure.report? with
      | some message => reportFailure message failure
      | none => throw failure

/-- The call without a configuration. -/
def endWithout (options : Options) (failure : Failure) :
    Action Ending := do
  let level : Text := options.logLevel.getD "INFO"
  let _ ← Action.setUpLogging level none false logFields
  reportFailure "Configuration error: %s" failure

/-- A call with options. -/
def call (options : Options) (dropped : List Text) : Action Ending := do
  let loaded : Except Failure Configuration ←
    tryCatch (.ok <$> Configuration.load
        (options.config.map PathName.ofText))
      (fun failure => return .error failure)
  match loaded with
  | .ok configuration => options.continueWith configuration dropped
  | .error failure =>
      if failure.isOfConfiguration then options.endWithout failure
      else throw failure

end Options

/-- A call with arguments.  The entries of the dropped categories are left out
of the contract. -/
def command (arguments : List Text) (dropped : List Text) :
    Action Ending := do
  match Request.ofArguments arguments with
  | .ok .help =>
      modify fun world => world.print helpText
      return .helped
  | .ok (.run options) => options.call dropped
  | .error fault =>
      modify fun world => world.report fault.report
      return .misused

end VestingContract
