import VestingContract.CommandLine.Command
import VestingContract.Proofs.Run.Pipeline

/-!
# The stages of a call

A call loads its configuration, sets up its logging, generates its contract
and delivers it: it prints the contract if it is a dry run, else it replaces
its output.  It ends at the first stage that fails, and no stage before the
last one looks at whether the call is a dry run.
-/

namespace VestingContract

open Stateful

/-- The world once exceptions that nobody catches are reported. -/
def World.reportingUncaught (world : World) : World :=
  { world with logging := { world.logging with reportsUncaught := true } }

namespace Options

/-- The configuration that a call works with: the paths of the command line
stand in for those of the file. -/
def overriding (options : Options) (configuration : Configuration) :
    Configuration :=
  configuration.withPaths (options.input.map PathName.ofText)
    (options.output.map PathName.ofText)

/-- The logging that a call sets up. -/
def setUpLogging (options : Options) (configuration : Configuration) :
    Action (List Handler) :=
  Action.setUpLogging (options.logLevel.getD configuration.logging.level)
    configuration.logging.file configuration.logging.json logFields

/-- What a call does with its contract. -/
def deliver (options : Options) (configuration : Configuration)
    (generation : Generation) : Action Generation := do
  if options.dryRun then
    Action.print generation.text
  else
    Action.replaceText configuration.output generation.text
    Action.log 20 "allocgen.pipeline"
      "Wrote %d allocations in %d categories to %s"
      [.int generation.total, .int generation.categories.length,
        .text configuration.output.toText]
  return generation

/-- The end of a call whose contract has been delivered, or not. -/
def endWith : Except Failure Generation → Action Ending
  | .ok generation => do
      Action.log 20 logger "Done: %d allocations" [.int generation.total]
      return .succeeded
  | .error failure =>
      match failure.report? with
      | some message => reportFailure message failure
      | none => throw failure

/-- The call once logging is set up. -/
def conclude (options : Options) (configuration : Configuration) :
    Action Ending := do
  Action.reportUncaught
  endWith (← tryCatch (.ok <$> options.perform configuration [])
    (fun failure => return .error failure))

/-- A call has loaded a configuration and set up its logging. -/
def Readies (options : Options) (world : World)
    (configuration : Configuration) (ready : World) : Prop :=
  ∃ given loaded handlers logged,
    (Configuration.load (options.config.map PathName.ofText)).run world =
      (.ok given, loaded) ∧
    (options.setUpLogging given).run loaded = (.ok handlers, logged) ∧
    configuration = options.overriding given ∧
    ready = logged.reportingUncaught

/-- A call has generated its contract. -/
def Renders (options : Options) (world : World)
    (configuration : Configuration) (generation : Generation)
    (middle : World) : Prop :=
  ∃ ready, options.Readies world configuration ready ∧
    (configuration.generate .file []).run ready = (.ok generation, middle)

theorem command_eq {arguments : List Text} {options : Options}
    (asked : Request.ofArguments arguments = .ok (.run options)) :
    command arguments [] = options.call [] := by
  rw [command, asked]

theorem continueWith_eq (options : Options) (configuration : Configuration) :
    options.continueWith configuration [] = (do
      let _ ← options.setUpLogging configuration
      options.conclude (options.overriding configuration)) := rfl

theorem perform_eq (options : Options) (configuration : Configuration) :
    options.perform configuration [] = (do
      let generation ← configuration.generate .file []
      options.deliver configuration generation) := by
  unfold perform deliver
  cases options.dryRun <;> rfl

section Stages

variable {options : Options} {world : World}

/-- A call goes on with the configuration that it has loaded, or without
one. -/
theorem run_call {loaded : World} {result : Except Failure Configuration}
    (loads : (Configuration.load
      (options.config.map PathName.ofText)).run world = (result, loaded)) :
    (options.call []).run world =
      (match result with
        | .ok configuration => options.continueWith configuration []
        | .error failure =>
            if failure.isOfConfiguration then options.endWithout failure
            else throw failure).run loaded := by
  have outcome : (tryCatch (.ok <$> Configuration.load
        (options.config.map PathName.ofText))
        (fun failure => return .error failure) :
        Action (Except Failure Configuration)).run world =
      (.ok result, loaded) := by
    cases result with
    | ok configuration =>
        exact run_tryCatch_of_ok (run_map_of_ok loads _) _
    | error failure =>
        rw [run_tryCatch_of_error (run_map_of_error loads _)]
        rfl
  rw [call]
  exact run_bind_of_ok outcome _

theorem run_call_of_unready {given : Configuration} {loaded after : World}
    {failure : Failure}
    (loads : (Configuration.load
      (options.config.map PathName.ofText)).run world = (.ok given, loaded))
    (fails : (options.setUpLogging given).run loaded =
      (.error failure, after)) :
    (options.call []).run world = (.error failure, after) := by
  rw [run_call loads]
  simp only [continueWith_eq]
  exact run_bind_of_error fails _

theorem run_call_of_readies {configuration : Configuration}
    {ready after : World} {result : Except Failure Generation}
    (readies : options.Readies world configuration ready)
    (performs : (options.perform configuration []).run ready =
      (result, after)) :
    (options.call []).run world = (endWith result).run after := by
  obtain ⟨given, loaded, handlers, logged, loads, logs, rfl, rfl⟩ := readies
  have outcome : (tryCatch (.ok <$>
        options.perform (options.overriding given) [])
        (fun failure => return .error failure) :
        Action (Except Failure Generation)).run logged.reportingUncaught =
      (.ok result, after) := by
    cases result with
    | ok generation =>
        exact run_tryCatch_of_ok (run_map_of_ok performs _) _
    | error failure =>
        rw [run_tryCatch_of_error (run_map_of_error performs _)]
        rfl
  have reports : Action.reportUncaught.run logged =
      (.ok ⟨⟩, logged.reportingUncaught) := rfl
  rw [run_call loads]
  simp only [continueWith_eq]
  rw [run_bind_of_ok logs, conclude, run_bind_of_ok reports,
    run_bind_of_ok outcome]

theorem run_call_of_not_generated {configuration : Configuration}
    {ready after : World} {failure : Failure}
    (readies : options.Readies world configuration ready)
    (fails : (configuration.generate .file []).run ready =
      (.error failure, after)) :
    (options.call []).run world = (endWith (.error failure)).run after := by
  apply run_call_of_readies readies
  rw [perform_eq]
  exact run_bind_of_error fails _

theorem run_call_of_renders {configuration : Configuration}
    {generation : Generation} {middle after : World}
    {result : Except Failure Generation}
    (renders : options.Renders world configuration generation middle)
    (delivers : (options.deliver configuration generation).run middle =
      (result, after)) :
    (options.call []).run world = (endWith result).run after := by
  obtain ⟨ready, readies, generates⟩ := renders
  apply run_call_of_readies readies
  rw [perform_eq, run_bind_of_ok generates]
  exact delivers

/-- The stage at which a call ends. -/
inductive Stage (options : Options) (world : World) : Prop where
  | unconfigured (failure : Failure) (loaded : World)
      (fails : (Configuration.load
        (options.config.map PathName.ofText)).run world =
          (.error failure, loaded))
  | unready (given : Configuration) (loaded : World) (failure : Failure)
      (after : World)
      (loads : (Configuration.load
        (options.config.map PathName.ofText)).run world =
          (.ok given, loaded))
      (fails : (options.setUpLogging given).run loaded =
        (.error failure, after))
  | notGenerated (configuration : Configuration) (ready : World)
      (failure : Failure) (after : World)
      (readies : options.Readies world configuration ready)
      (fails : (configuration.generate .file []).run ready =
        (.error failure, after))
  | rendered (configuration : Configuration) (generation : Generation)
      (middle : World)
      (renders : options.Renders world configuration generation middle)

/-- Every call ends at a stage. -/
theorem stage (options : Options) (world : World) : options.Stage world := by
  rcases loads : (Configuration.load
    (options.config.map PathName.ofText)).run world with ⟨result, loaded⟩
  cases result with
  | error failure => exact .unconfigured failure loaded loads
  | ok given =>
      rcases logs : (options.setUpLogging given).run loaded with
        ⟨logResult, logged⟩
      cases logResult with
      | error failure => exact .unready given loaded failure logged loads logs
      | ok handlers =>
          have readies : options.Readies world (options.overriding given)
              logged.reportingUncaught :=
            ⟨given, loaded, handlers, logged, loads, logs, rfl, rfl⟩
          rcases generates : ((options.overriding given).generate .file
            []).run logged.reportingUncaught with ⟨genResult, after⟩
          cases genResult with
          | error failure =>
              exact .notGenerated _ _ failure after readies generates
          | ok generation =>
              exact .rendered _ generation after ⟨_, readies, generates⟩

/-- A call generates one contract. -/
theorem Renders.unique {options : Options} {world middle other : World}
    {configuration : Configuration} {generation : Generation}
    {otherConfiguration : Configuration} {otherGeneration : Generation}
    (renders : options.Renders world configuration generation middle)
    (rendersOther : options.Renders world otherConfiguration otherGeneration
      other) :
    generation = otherGeneration := by
  obtain ⟨_, ⟨given, loaded, handlers, logged, loads, logs, rfl, rfl⟩,
    generates⟩ := renders
  obtain ⟨_, ⟨_, _, _, _, loadsOther, logsOther, rfl, rfl⟩,
    generatesOther⟩ := rendersOther
  obtain ⟨⟨⟩, rfl⟩ := Prod.mk.inj (loads.symm.trans loadsOther)
  obtain ⟨⟨⟩, rfl⟩ := Prod.mk.inj (logs.symm.trans logsOther)
  obtain ⟨⟨⟩, -⟩ := Prod.mk.inj (generates.symm.trans generatesOther)
  rfl

end Stages

section Deliveries

variable {options : Options} {configuration : Configuration}
  {generation : Generation} {world : World}

theorem run_deliver_of_dryRun (dry : options.dryRun = true)
    {bytes : List UInt8} (encoded : Utf8.encode generation.text = .ok bytes) :
    (options.deliver configuration generation).run world =
      (.ok generation, world.print generation.text) := by
  rw [deliver, dry, Action.print, encoded]
  rfl

theorem run_deliver_of_unprintable (dry : options.dryRun = true)
    {fault : Utf8.EncodeFault}
    (unencodable : Utf8.encode generation.text = .error fault) :
    (options.deliver configuration generation).run world =
      (.error (.printing fault), world) := by
  rw [deliver, dry, Action.print, unencodable]
  rfl

theorem run_deliver_of_error (real : options.dryRun = false)
    {failure : FileFailure} {files : FileTree}
    (fails : (FileAction.replaceText world.platform.device
      configuration.output generation.text).run world.files =
        (.error failure, files)) :
    (options.deliver configuration generation).run world =
      (.error (.files failure), { world with files := files }) := by
  have writes := Action.run_onFiles (FileAction.replaceText
    world.platform.device configuration.output generation.text) world
  rw [fails] at writes
  have replaces : (Action.replaceText configuration.output
      generation.text).run world =
        (.error (.files failure), { world with files := files }) := by
    rw [Action.run_replaceText, run_bind_of_error writes]
  rw [deliver, real]
  simp only [Bool.false_eq_true, if_false]
  exact run_bind_of_error replaces _

theorem run_deliver_of_ok (real : options.dryRun = false) {files : FileTree}
    (ends : (FileAction.replaceText world.platform.device
      configuration.output generation.text).run world.files =
        (.ok ⟨⟩, files)) :
    ∃ after, World.OnlyRecords { world with files := files } after ∧
      (options.deliver configuration generation).run world =
        (.ok generation, after) := by
  have writes := Action.run_onFiles (FileAction.replaceText
    world.platform.device configuration.output generation.text) world
  rw [ends] at writes
  have replaces : (Action.replaceText configuration.output
      generation.text).run world = _ :=
    (Action.run_replaceText _ _ _).trans
      ((run_bind_of_ok writes _).trans (Action.run_log _ _ _ _ _))
  have only := Action.onlyRecords_log 10 "allocgen.utils.fs"
    "Wrote %d characters to %s"
    [.int generation.text.length, .text configuration.output.toText]
    { world with files := files }
  have onlyLater := Action.onlyRecords_log 20 "allocgen.pipeline"
    "Wrote %d allocations in %d categories to %s"
    [.int generation.total, .int generation.categories.length,
      .text configuration.output.toText]
  refine ⟨_, only.trans (onlyLater _), ?_⟩
  rw [deliver, real]
  simp only [Bool.false_eq_true, if_false]
  rw [run_bind_of_ok replaces]
  rfl

end Deliveries

end Options

end VestingContract
