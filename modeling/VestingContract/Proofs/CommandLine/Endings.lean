import VestingContract.Proofs.CommandLine.Arguments
import VestingContract.Proofs.CommandLine.Stages
import VestingContract.Proofs.Run.Configuring
import VestingContract.Proofs.Run.LogFile

/-!
# How a call ends

A call that has delivered its contract succeeds.  Most failures are logged
and end the call with the status of a failure, but some are not looked at and
leave the call as they are: those of the notation of the configuration other
than a broken rule, those of the log file, a setting or a dataset that is
nested too deeply, and a path or a text that the system cannot take as the
output.
-/

namespace VestingContract

open Stateful

section Levels

theorem exists_level_of_configurable :
    ∀ name ∈ configurableLevels, ∃ level,
      levelOfName? (Text.toUpper name) = some level := by
  intro name member
  have known : ∀ name ∈ configurableLevels,
      (levelOfName? (Text.toUpper name)).isSome := by decide
  exact Option.isSome_iff_exists.mp (known name member)

theorem Options.exists_logContext :
    ∃ context, LogContext.ofPairs? Options.logFields = some context :=
  ⟨_, rfl⟩

end Levels

section Stages

variable {arguments : List Text} {options : Options} {world : World}

/-- The log file of a configuration cannot be opened. -/
def Configuration.LogFileFails (given : Configuration) (loaded : World)
    (failure : Failure) : Prop :=
  ∃ name after, given.logging.file = some name ∧ name ≠ [] ∧
    (Action.openLogFile (PathName.ofText name)).run loaded.withoutInstalled =
      (.error failure, after)

theorem Options.exists_level (requestable : options.HasRequestableLevel)
    {standard : Text} (known : ∃ level,
      levelOfName? standard.toUpper = some level) :
    ∃ level, levelOfName? (options.logLevel.getD standard).toUpper =
      some level := by
  cases asked : options.logLevel with
  | none => exact known
  | some name =>
      exact Options.exists_level_of_requestable name (requestable name asked)

/-- Logging is not set up just if the log file cannot be opened. -/
theorem Options.setUpLogging_cases (requestable : options.HasRequestableLevel)
    {given : Configuration} {loaded : World}
    (loads : (Configuration.load
      (options.config.map PathName.ofText)).run world = (.ok given, loaded)) :
    (∃ failure after, given.LogFileFails loaded failure ∧
      (options.setUpLogging given).run loaded = (.error failure, after)) ∨
    (∀ failure, ¬ given.LogFileFails loaded failure) ∧
      ∃ handlers after,
        (options.setUpLogging given).run loaded = (.ok handlers, after) := by
  have known := Options.exists_level requestable
    (exists_level_of_configurable _ (Configuration.isSound_of_load loads).level)
  rcases run_setUpLogging_cases known Options.exists_logContext
      given.logging.file given.logging.json loaded with
    ⟨name, failure, after, named, nonempty, opens, fails⟩ | ⟨never, ends⟩
  · exact .inl ⟨failure, after, ⟨name, after, named, nonempty, opens⟩, fails⟩
  · refine .inr ⟨?_, ends⟩
    rintro failure ⟨name, after, named, nonempty, opens⟩
    exact never name failure after named nonempty opens

theorem Options.run_endWithout (requestable : options.HasRequestableLevel)
    (failure : Failure) (world : World) :
    ∃ after, (options.endWithout failure).run world =
      (.ok .failed, after) := by
  have known := Options.exists_level requestable
    (exists_level_of_configurable "INFO" (by decide))
  rcases run_setUpLogging_cases known Options.exists_logContext none false
      world with
    ⟨_, _, _, named, -⟩ | ⟨-, handlers, after, logs⟩
  · cases named
  · rw [Options.endWithout, run_bind_of_ok logs]
    exact ⟨_, rfl⟩

end Stages

section Failures

/-- A call has delivered its contract: it has printed it, or it has replaced
its output. -/
def Options.Completes (options : Options) (world : World) : Prop :=
  ∃ configuration generation middle,
    options.Renders world configuration generation middle ∧
    (options.dryRun = true →
      ∃ bytes, Utf8.encode generation.text = .ok bytes) ∧
    (options.dryRun = false →
      ∃ files, (FileAction.replaceText middle.platform.device
        configuration.output generation.text).run middle.files =
          (.ok ⟨⟩, files))

/-- The failures that leave a call. -/
inductive Options.Escapes (options : Options) (world : World) :
    Failure → Prop where
  | settings {loaded : World} {place : List Text} {identity : Nat}
      {content : List UInt8} {fault : Yaml.Fault}
      (found : loaded.files.find ((options.config.map PathName.ofText).getD
        world.shipped) = .ok (.present place (.file identity content)))
      (unread : Yaml.load world.platform.interpreter content = .error fault)
      (notMalformed : fault ≠ .malformed)
      (fails : (Configuration.load
        (options.config.map PathName.ofText)).run world =
          (.error (.document fault), loaded)) :
      Escapes options world (.document fault)
  | deepSetting {loaded : World} {place : List Text} {identity : Nat}
      {content : List UInt8} {value : Value}
      (found : loaded.files.find ((options.config.map PathName.ofText).getD
        world.shipped) = .ok (.present place (.file identity content)))
      (read : Yaml.load world.platform.interpreter content = .ok value)
      (deep : world.platform.interpreter.texts < value.depth)
      (fails : (Configuration.load
        (options.config.map PathName.ofText)).run world =
          (.error (.reading .recursion), loaded)) :
      Escapes options world (.reading .recursion)
  | logFile {given : Configuration} {loaded : World} {failure : Failure}
      (loads : (Configuration.load
        (options.config.map PathName.ofText)).run world =
          (.ok given, loaded))
      (fails : given.LogFileFails loaded failure) :
      Escapes options world failure
  | nesting {configuration : Configuration} {ready after : World}
      {place : List Text} {identity : Nat} {content : List UInt8}
      {container : Json.Container}
      (readies : options.Readies world configuration ready)
      (found : (Dataset.announced configuration.input ready).files.find
        configuration.input = .ok (.present place (.file identity content)))
      (tooDeep : Dataset.ofBytes content = .error (.tooDeep container))
      (fails : (Dataset.load configuration.input).run ready =
        (.error (.tooDeep container), after)) :
      Escapes options world (.tooDeep container)
  | writing {configuration : Configuration} {generation : Generation}
      {middle : World} {failure : FileFailure} {files : FileTree}
      (renders : options.Renders world configuration generation middle)
      (real : options.dryRun = false)
      (fails : (FileAction.replaceText middle.platform.device
        configuration.output generation.text).run middle.files =
          (.error failure, files))
      (noError : ∀ fault, failure ≠ .file fault) :
      Escapes options world (.files failure)
  | printing {configuration : Configuration} {generation : Generation}
      {middle : World} {fault : Utf8.EncodeFault}
      (renders : options.Renders world configuration generation middle)
      (dry : options.dryRun = true)
      (unencodable : Utf8.encode generation.text = .error fault) :
      Escapes options world (.printing fault)

/-- A configuration is not loaded for a reason that is told, because the
notation of its document is at fault, or because a setting is nested too
deeply. -/
theorem Configuration.load_error_cases {given : Option PathName}
    {world loaded : World} {failure : Failure}
    (fails : (Configuration.load given).run world =
      (.error failure, loaded)) :
    failure.isOfConfiguration = true ∨
    ∃ place identity content,
      loaded.files.find (given.getD world.shipped) =
        .ok (.present place (.file identity content)) ∧
      ((∃ fault, failure = .document fault ∧
        Yaml.load world.platform.interpreter content = .error fault ∧
        fault ≠ .malformed) ∨
      ∃ value, failure = .reading .recursion ∧
        Yaml.load world.platform.interpreter content = .ok value ∧
        world.platform.interpreter.texts < value.depth) := by
  rcases load_cases given world with
    ⟨fault, missing⟩ | ⟨place, identity, content, found, ends⟩
  · rw [fails] at missing
    cases missing
    exact .inl rfl
  · rw [fails] at ends
    have holds := congrArg Prod.fst ends
    obtain rfl : loaded = _ := congrArg Prod.snd ends
    dsimp only at holds
    cases read : Yaml.load world.platform.interpreter content with
    | error fault =>
        rw [Configuration.ofContent_of_fault _ read] at holds
        split at holds
        · cases holds
          exact .inl rfl
        · next notMalformed =>
            cases holds
            exact .inr ⟨place, identity, content, found,
              .inl ⟨fault, rfl, read, notMalformed⟩⟩
    | ok value =>
        have answers :=
          Configuration.answers_ofContent (given.getD world.shipped) read
        rw [← holds] at answers
        rcases answers.ends with ⟨configuration, isOk⟩ | refused
        · cases isOk
        · cases refused with
          | fault fault => exact .inl rfl
          | depth deep =>
              exact .inr ⟨place, identity, content, found,
                .inr ⟨value, rfl, read, deep⟩⟩

/-- A dataset is not loaded for a reason that is logged, or because it is
nested too deeply. -/
theorem Dataset.load_error_cases {path : PathName} {world after : World}
    {failure : Failure}
    (fails : (Dataset.load path).run world = (.error failure, after)) :
    (∃ message, failure.report? = some message) ∨
    ∃ place identity content container, failure = .tooDeep container ∧
      (announced path world).files.find path =
        .ok (.present place (.file identity content)) ∧
      Dataset.ofBytes content = .error (.tooDeep container) := by
  rcases load_cases path world with
    ⟨fault, missing⟩ | ⟨place, identity, content, -, found, ends⟩
  · rw [fails] at missing
    cases missing
    exact .inl ⟨_, rfl⟩
  · rw [fails, loadContent] at ends
    split at ends
    · next fault held =>
        cases ends
        cases fault with
        | document fault => exact .inl ⟨_, rfl⟩
        | tooDeep container =>
            exact .inr ⟨place, identity, content, container, rfl, found,
              held⟩
    · cases ends

namespace Options

theorem run_endWith_of_report {failure : Failure} {message : Text}
    (reported : failure.report? = some message) (after : World) :
    ((endWith (.error failure)).run after).1 = .ok .failed := by
  simp only [endWith, reported]
  rfl

theorem run_endWith_of_silent {failure : Failure}
    (silent : failure.report? = none) (after : World) :
    (endWith (.error failure)).run after = (.error failure, after) := by
  simp only [endWith, silent]
  rfl

theorem run_endWith_error_ne (failure : Failure) (after : World) :
    ((endWith (.error failure)).run after).1 ≠ .ok .succeeded := by
  cases reported : failure.report? with
  | some message =>
      rw [run_endWith_of_report reported]
      simp
  | none =>
      rw [run_endWith_of_silent reported]
      simp

variable {options : Options} {world : World}

theorem call_of_completes (completes : options.Completes world) :
    ((options.call []).run world).1 = .ok .succeeded := by
  obtain ⟨configuration, generation, middle, renders, prints, replaces⟩ :=
    completes
  cases dry : options.dryRun with
  | true =>
      obtain ⟨bytes, encoded⟩ := prints dry
      rw [run_call_of_renders renders (run_deliver_of_dryRun dry encoded)]
      rfl
  | false =>
      obtain ⟨files, ends⟩ := replaces dry
      obtain ⟨after, -, delivers⟩ := run_deliver_of_ok dry ends
      rw [run_call_of_renders renders delivers]
      rfl

theorem call_of_escapes (requestable : options.HasRequestableLevel)
    {failure : Failure} (escapes : options.Escapes world failure) :
    ((options.call []).run world).1 = .error failure := by
  cases escapes with
  | settings _ _ _ fails | deepSetting _ _ _ fails =>
      rw [run_call fails]
      rfl
  | logFile loads fails =>
      rcases setUpLogging_cases requestable loads with
        ⟨other, after, failsOther, logs⟩ | ⟨never, -⟩
      · -- The log file is opened once, so there is one failure.
        obtain ⟨name, _, named, _, opens⟩ := fails
        obtain ⟨_, _, namedOther, _, opensOther⟩ := failsOther
        rw [named] at namedOther
        cases namedOther
        rw [opens] at opensOther
        cases opensOther
        rw [run_call_of_unready loads logs]
      · exact absurd fails (never failure)
  | nesting readies _ _ fails =>
      have generates := Configuration.generate_of_load_error fails
      rw [run_call_of_not_generated readies generates,
        run_endWith_of_silent rfl]
  | @writing _ _ _ failure _ renders real fails noError =>
      rw [run_call_of_renders renders (run_deliver_of_error real fails),
        run_endWith_of_silent]
      cases failure with
      | file fault => exact absurd rfl (noError fault)
      | _ => rfl
  | printing renders dry unencodable =>
      rw [run_call_of_renders renders
        (run_deliver_of_unprintable dry unencodable),
        run_endWith_of_silent rfl]

/-- A call completes and succeeds, or it fails, or its failure leaves it. -/
theorem call_cases (requestable : options.HasRequestableLevel) :
    options.Completes world ∨
    ((options.call []).run world).1 = .ok .failed ∨
    ∃ failure, options.Escapes world failure := by
  -- One case for each stage that a call can come to; in every one the failure
  -- is either reported or escapes.
  rcases options.stage world with
    ⟨failure, loaded, fails⟩ | ⟨given, loaded, failure, after, loads, fails⟩ |
      ⟨configuration, ready, failure, after, readies, fails⟩ |
      ⟨configuration, generation, middle, renders⟩
  · rcases Configuration.load_error_cases fails with
      isOfConfiguration | ⟨_, _, _, found, ⟨_, rfl, unread, notMalformed⟩ |
        ⟨_, rfl, read, deep⟩⟩
    · obtain ⟨after, ends⟩ := run_endWithout requestable failure loaded
      refine .inr (.inl ?_)
      rw [run_call fails]
      simp only [isOfConfiguration, if_true, ends]
    · exact .inr (.inr ⟨_, .settings found unread notMalformed fails⟩)
    · exact .inr (.inr ⟨_, .deepSetting found read deep fails⟩)
  · rcases setUpLogging_cases requestable loads with
      ⟨_, _, logFileFails, -⟩ | ⟨-, _, _, logs⟩
    · exact .inr (.inr ⟨_, .logFile loads logFileFails⟩)
    · rw [fails] at logs
      cases logs
  · have unloaded := Configuration.load_error_of_generate fails
    rcases Dataset.load_error_cases unloaded with
      ⟨message, reported⟩ | ⟨_, _, _, _, rfl, found, tooDeep⟩
    · refine .inr (.inl ?_)
      rw [run_call_of_not_generated readies fails,
        run_endWith_of_report reported]
    · exact .inr (.inr ⟨_, .nesting readies found tooDeep unloaded⟩)
  · cases dry : options.dryRun with
    | true =>
        cases encoded : Utf8.encode generation.text with
        | ok bytes =>
            exact .inl ⟨configuration, generation, middle, renders,
              fun _ => ⟨bytes, encoded⟩, by simp [dry]⟩
        | error fault =>
            exact .inr (.inr ⟨_, .printing renders dry encoded⟩)
    | false =>
        rcases ends : (FileAction.replaceText middle.platform.device
          configuration.output generation.text).run middle.files with
          ⟨result, files⟩
        cases result with
        | ok _ =>
            exact .inl ⟨configuration, generation, middle, renders,
              by simp [dry], fun _ => ⟨files, ends⟩⟩
        | error failure =>
            cases failure with
            | file fault =>
                refine .inr (.inl ?_)
                rw [run_call_of_renders renders
                  (run_deliver_of_error dry ends)]
                exact run_endWith_of_report rfl _
            | _ => exact .inr (.inr ⟨_, .writing renders dry ends (by simp)⟩)

theorem completes_of_call (requestable : options.HasRequestableLevel)
    (succeeds : ((options.call []).run world).1 = .ok .succeeded) :
    options.Completes world := by
  rcases call_cases requestable with
    completes | fails | ⟨failure, escapes⟩
  · exact completes
  · rw [fails] at succeeds
    cases succeeds
  · rw [call_of_escapes requestable escapes] at succeeds
    cases succeeds

end Options

section Undecodable

/-- A world with a configuration that is no text. -/
def undecodableWorld : World where
  files := ⟨[([("g.yaml" : Text)], .file 0 [0xFF])], [], 1⟩
  logging := .initial
  output := []
  errors := []
  uses := []
  clock := .null
  terminal := false
  shipped := ⟨1, []⟩

/-- The options that name the configuration. -/
def undecodableOptions : Options :=
  { Options.unset with config := some "g.yaml" }

theorem undecodableOptions_asked :
    Request.ofArguments ["-c", "g.yaml"] = .ok (.run undecodableOptions) := by
  decide +kernel

theorem command_undecodable :
    ((command ["-c", "g.yaml"] []).run undecodableWorld).1 =
      .error (.document (.undecodable ⟨0, 1, 0xFF, .invalidStart⟩)) := by
  decide +kernel

end Undecodable

end Failures

end VestingContract
