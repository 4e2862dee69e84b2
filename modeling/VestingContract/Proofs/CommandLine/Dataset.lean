import VestingContract.Proofs.CommandLine.Stages
import VestingContract.Proofs.Run.LogFile
import VestingContract.Proofs.Run.Overwriting

/-!
# What a call does to its dataset

A call replaces the file that its output leads to.  The rule that input and
output differ is checked for the paths of the configuration, not for those
that the command line puts in their place, and not for the log file.  So a
call keeps its dataset unless this is its output or its log file.
-/

namespace VestingContract

open Stateful

namespace Options

/-- A call with a configuration is to write to a place. -/
def WritesTo (options : Options) (configuration : Configuration)
    (files : FileTree) (place : List Text) : Prop :=
  options.dryRun = false ∧
    (files.absolute configuration.output).names = place

section Calls

variable {file : WatchedFile} {quiet loud : Prop} {files : FileTree}
  {configuration : Configuration} (options : Options)

theorem ensures_perform (isInput : configuration.input = file.path)
    (sameDirectory : files.workingDirectory = file.workingDirectory) :
    Ensures (file.IsReadyIn quiet loud) (options.perform configuration [])
      (fun _ => file.Verdict quiet loud
        (options.WritesTo configuration files file.place))
      (fun _ => file.IsLeftIn quiet loud) := by
  unfold perform
  cases dry : options.dryRun with
  | true =>
      have never : ¬ options.WritesTo configuration files file.place := by
        rw [WritesTo, dry]
        simp
      have generates := (WatchedFile.ensures_generate isInput).imp
        (fun _ (_ : World) (ends : file.IsLeftIn quiet loud _ ∧ _) => ends.1)
        (fun _ _ left => left)
      exact Ensures.bind generates fun generation =>
        Ensures.bind (WatchedFile.preserves_print generation.text) fun _ =>
          .pure fun _ left => ⟨fun writes => absurd writes never,
            fun _ => left⟩
  | false =>
      have same : options.WritesTo configuration files file.place ↔
          (files.absolute configuration.output).names = file.place := by
        rw [WritesTo, dry]
        simp
      rw [propext same]
      exact WatchedFile.ensures_run isInput sameDirectory

theorem ensures_reportFailure (message : Text) (failure : Failure) :
    Ensures (file.IsLeftIn quiet loud) (reportFailure message failure)
      (fun ending world => ending = .failed ∧ file.IsLeftIn quiet loud world)
      (fun _ => file.IsLeftIn quiet loud) := by
  have logs : Preserves (file.IsLeftIn quiet loud)
      (Action.log 40 logger message [.text failure.message]) :=
    WatchedFile.preserves_of_onlyRecords (Action.onlyRecords_log _ _ _ _)
  exact logs.bind fun _ => .pure fun _ left => ⟨rfl, left⟩

theorem ensures_reportUncaught :
    Ensures (file.IsReadyIn quiet loud) Action.reportUncaught
      (fun _ => file.IsReadyIn quiet loud)
      (fun _ => file.IsLeftIn quiet loud) := by
  apply Ensures.modify
  rintro world ⟨⟨there, apart⟩, announces⟩
  refine ⟨⟨there.withLogging _, apart⟩, fun isLogged => ?_⟩
  obtain ⟨valid, enabled, written⟩ := announces isLogged
  exact ⟨valid, enabled, written⟩

theorem ensures_attempt (isInput : configuration.input = file.path)
    (sameDirectory : files.workingDirectory = file.workingDirectory) :
    Ensures (file.IsReadyIn quiet loud)
      (tryCatch (.ok <$> options.perform configuration [])
        (fun failure => return .error failure) :
        Action (Except Failure Generation))
      (fun outcome world => match outcome with
        | .ok _ => file.Verdict quiet loud
            (options.WritesTo configuration files file.place) world
        | .error _ => file.IsLeftIn quiet loud world)
      (fun _ => file.IsLeftIn quiet loud) := by
  apply Ensures.tryCatch
  · rw [← bind_pure_comp]
    exact (options.ensures_perform isInput sameDirectory).bind
      fun generation => .pure fun _ verdict => verdict
  · exact fun failure => .pure fun _ left => left

/-- A call overwrites its input just if it succeeds and is to write there. -/
theorem ensures_conclude (isInput : configuration.input = file.path)
    (sameDirectory : files.workingDirectory = file.workingDirectory) :
    Ensures (file.IsReadyIn quiet loud) (options.conclude configuration)
      (fun ending => file.Verdict quiet loud (ending = .succeeded ∧
        options.WritesTo configuration files file.place))
      (fun _ => file.IsLeftIn quiet loud) := by
  refine ensures_reportUncaught.bind fun _ =>
    (options.ensures_attempt isInput sameDirectory).bind fun outcome => ?_
  cases outcome with
  | ok generation =>
      have logs : Ensures (file.Verdict quiet loud
            (options.WritesTo configuration files file.place))
          (Action.log 20 logger "Done: %d allocations"
            [.int generation.total])
          (fun _ => file.Verdict quiet loud
            (options.WritesTo configuration files file.place))
          (fun _ => file.IsLeftIn quiet loud) := by
        refine .of_run_eq (Action.run_log _ _ _ _) fun world verdict => ?_
        exact verdict.of_onlyRecords (Action.onlyRecords_log _ _ _ _ world)
      refine logs.bind fun _ => .pure fun world verdict => ?_
      exact ⟨fun holds => verdict.1 holds.2,
        fun fails => verdict.2 fun writes => fails ⟨rfl, writes⟩⟩
  | error failure =>
      simp only [endWith]
      split
      · next message _ =>
          refine (ensures_reportFailure message failure).imp ?_
            fun _ _ left => left
          rintro ending world ⟨rfl, left⟩
          have notSucceeded : ¬ (Ending.failed = .succeeded ∧
              options.WritesTo configuration files file.place) := by
            simp
          exact ⟨fun holds => absurd holds notSucceeded, fun _ => left⟩
      · exact .throw fun _ left => left

/-- The dataset after a call: overwritten, or with what records have added. -/
theorem dataset_of_conclude (isInput : configuration.input = file.path)
    (sameDirectory : files.workingDirectory = file.workingDirectory)
    {world after : World} {result : Except Failure Ending}
    (ready : file.IsReadyIn quiet loud world)
    (ends : (options.conclude configuration).run world = (result, after)) :
    file.Verdict quiet loud (result = .ok .succeeded ∧
      options.WritesTo configuration files file.place) after := by
  have holds := options.ensures_conclude isInput sameDirectory world ready
    result after ends
  cases result with
  | ok ending =>
      have verdict : file.Verdict quiet loud (ending = .succeeded ∧
        options.WritesTo configuration files file.place) after := holds
      rw [Except.ok.injEq]
      exact verdict
  | error failure =>
      have left : file.IsLeftIn quiet loud after := holds
      have notSucceeded : ¬ (Except.error failure = .ok Ending.succeeded ∧
          options.WritesTo configuration files file.place) := by
        simp
      exact ⟨fun succeeds => absurd succeeds notSucceeded, fun _ => left⟩

end Calls

theorem isHeldIf_of_setUpLogging {file : WatchedFile} {condition : Prop}
    {options : Options} {configuration : Configuration}
    {loaded ready : World} {result : Except Failure (List Handler)}
    (held : file.IsHeldIf True loaded)
    (isApart : condition →
      file.IsApartFrom configuration.logging.file loaded.files)
    (logs : (options.setUpLogging configuration).run loaded =
      (result, ready)) : file.IsHeldIf condition ready := by
  have holds := ensures_setUpLogging file condition _ _ _ _ loaded
    ⟨⟨held.1, fun _ => held.2 trivial⟩, isApart⟩ result ready logs
  cases result <;> exact holds

end Options

section Datasets

variable {arguments : List Text} {options : Options}
  {configuration : Configuration} {world loaded after : World}
  {place : List Text} {identity : Nat} {content : List UInt8}
  {result : Except Failure Ending}

/-- A call that succeeds and whose output is its dataset does not keep the
bytes of the dataset.  After any other call records at most stand behind them:
none if the log file is not the dataset, and some if the loading of the
dataset is announced in the dataset. -/
theorem dataset_after_command (wellFormed : world.files.WellFormed)
    (asked : Request.ofArguments arguments = .ok (.run options))
    (configured : (Configuration.load
      (options.config.map PathName.ofText)).run world =
        (.ok configuration, loaded))
    (found : world.files.find (options.overriding configuration).input =
      .ok (.present place (.file identity content)))
    (apart : ¬ world.logging.WritesTo identity)
    (ends : (command arguments []).run world = (result, after)) :
    (result = .ok .succeeded ∧ options.WritesTo
        (options.overriding configuration) world.files place →
      ∀ other, after.files.node? place ≠ some (.file other content)) ∧
    (¬ (result = .ok .succeeded ∧ options.WritesTo
        (options.overriding configuration) world.files place) →
      ∃ added,
        after.files.node? place = some (.file identity (content ++ added)) ∧
        ((∀ name, configuration.logging.file = some name → name ≠ [] →
          world.files.Avoids
            (world.files.absolute (PathName.ofText name)) identity) →
          added = []) ∧
        ∀ handlers ready,
          (options.setUpLogging configuration).run loaded =
            (.ok handlers, ready) →
          ready.Announces (options.overriding configuration).input identity →
          added ≠ []) := by
  -- The file is watched from the start; every stage keeps watching it, and
  -- only the delivery can overwrite it.
  let file : WatchedFile := ⟨(options.overriding configuration).input,
    world.files.workingDirectory, place, identity, content⟩
  have only : World.OnlyRecords world loaded := by
    have related := Configuration.onlyRecords_load
      (options.config.map PathName.ofText) world
    rw [configured] at related
    exact related
  have held : file.IsHeldIf True loaded :=
    .of_onlyRecords only ⟨⟨wellFormed, rfl, found⟩, fun _ => apart⟩
  rw [Options.command_eq asked, Options.run_call configured] at ends
  simp only [Options.continueWith_eq] at ends
  rcases logs : (options.setUpLogging configuration).run loaded with
    ⟨logResult, ready⟩
  have heldLater : file.IsHeldIf (file.IsApartFrom configuration.logging.file
      world.files) ready := by
    apply Options.isHeldIf_of_setUpLogging held _ logs
    intro isApart name named nonempty
    obtain ⟨additions, additionsEq, -⟩ := only.files
    rw [held.1.absolute_eq rfl, additionsEq]
    exact (isApart name named nonempty).appendAll additions
  cases logResult with
  | error failure =>
      rw [run_bind_of_error logs] at ends
      cases ends
      constructor
      · simp
      · intro _
        refine ⟨[], ?_, fun _ => rfl, fun _ _ same => by cases same⟩
        rw [List.append_nil]
        exact heldLater.1.node?
  | ok handlers =>
      rw [run_bind_of_ok logs] at ends
      obtain ⟨overwritten, left⟩ := options.dataset_of_conclude rfl rfl
        ⟨heldLater, id⟩ ends
      refine ⟨fun writes => (overwritten writes).node?_ne, fun spares => ?_⟩
      obtain ⟨added, there, isLonger, isSame⟩ := left spares
      refine ⟨added, there.node?, fun isApart => (isSame isApart).1, ?_⟩
      rintro _ _ same announces
      cases same
      exact isLonger announces

end Datasets

section Sessions

/-- The bytes of a dataset without categories. -/
def emptyDataset : List UInt8 := Utf8.encodeChars "\x7b\x7d".toList

/-- A dataset beside the settings of a configuration. -/
def sessionWorld (settings : List Char) : World where
  files := ⟨[([("data.json" : Text)], .file 0 emptyDataset),
    ([("g.yaml" : Text)], .file 1 (Utf8.encodeChars settings))], [], 2⟩
  logging := .initial
  output := []
  errors := []
  uses := []
  clock := .int 0
  terminal := false
  shipped := ⟨1, []⟩

/-- The settings that name the two paths. -/
def pathSettings : List Char :=
  "paths:\n  input: data.json".toList ++ "\n  output: out.sol\n".toList

/-- The settings that name the dataset as the log file, too. -/
def logSettings : List Char :=
  pathSettings ++ "logging:\n".toList ++ "  file: data.json\n".toList

/-- A call that is to write to its dataset. -/
def overwritingCall : List Text :=
  ["-c", "g.yaml", "--output", "data.json"]

/-- A call that takes all from its configuration. -/
def plainCall : List Text := ["-c", "g.yaml"]

/-- The configuration of the settings with a log file. -/
def sessionConfiguration (logFile : Option Text) : Configuration where
  input := ⟨0, ["data.json"]⟩
  output := ⟨0, ["out.sol"]⟩
  template := .standard
  logging := { LogOptions.standard with file := logFile }

theorem sessionWorld_wellFormed (settings : List Char) :
    (sessionWorld settings).files.WellFormed :=
  FileTree.wellFormed_pair (by decide) (by decide)

theorem sessionWorld_apart (settings : List Char) (identity : Nat) :
    ¬ (sessionWorld settings).logging.WritesTo identity := by
  rintro ⟨style, attached⟩
  exact absurd attached List.not_mem_nil

/-- The options of a call with settings. -/
def sessionOptions (output : Option Text) : Options :=
  { Options.unset with config := some "g.yaml", output := output }

/-- The configuration of a session and the world in which it is loaded. -/
def loadSession (settings : List Char) :
    Except Failure Configuration × World :=
  (Configuration.load (some (PathName.ofText "g.yaml"))).run
    (sessionWorld settings)

/-- The logging of a session is set up. -/
def readySession (settings : List Char) (logFile : Option Text) :
    Except Failure (List Handler) × World :=
  ((sessionOptions none).setUpLogging (sessionConfiguration logFile)).run
    (loadSession settings).2

theorem loadSession_pathSettings :
    loadSession pathSettings =
      (.ok (sessionConfiguration none), (loadSession pathSettings).2) := by
  have holds : (loadSession pathSettings).1 =
      .ok (sessionConfiguration none) := by decide +kernel
  rw [← holds]

theorem loadSession_logSettings :
    loadSession logSettings =
      (.ok (sessionConfiguration (some "data.json")),
        (loadSession logSettings).2) := by
  have holds : (loadSession logSettings).1 =
      .ok (sessionConfiguration (some "data.json")) := by decide +kernel
  rw [← holds]

/-- The dataset is announced in itself if it is the log file. -/
theorem readySession_announces :
    (readySession logSettings (some "data.json")).1.isOk = true ∧
      (readySession logSettings (some "data.json")).2.Announces
        ⟨0, ["data.json"]⟩ 0 := by
  have sees : (readySession logSettings (some "data.json")).1.isOk = true ∧
      (readySession logSettings (some "data.json")).2.logging.isEnabled 20 ∧
      Handler.file 0 (.people false) ∈
        (readySession logSettings (some "data.json")).2.logging.handlers ∧
      ((readySession logSettings (some "data.json")).2.lineBytes?
        ((readySession logSettings (some "data.json")).2.announcement
          ⟨0, ["data.json"]⟩) (.people false)).isSome := by
    decide +kernel
  obtain ⟨isReady, enabled, attached, written⟩ := sees
  exact ⟨isReady, by decide +kernel, enabled, _, attached, written⟩

/-- The dataset is not kept if it is the output, and not if it is the log
file. -/
theorem command_changes_dataset :
    (¬ ∃ other, ((command overwritingCall []).run
      (sessionWorld pathSettings)).2.files.node? ["data.json"] =
        some (.file other emptyDataset)) ∧
    ¬ ∃ other, ((command plainCall []).run
      (sessionWorld logSettings)).2.files.node? ["data.json"] =
        some (.file other emptyDataset) := by
  have found : ∀ settings, settings = pathSettings ∨ settings = logSettings →
      (sessionWorld settings).files.find ⟨0, ["data.json"]⟩ =
        .ok (.present ["data.json"] (.file 0 emptyDataset)) := by
    rintro settings (rfl | rfl) <;> decide +kernel
  constructor
  · have succeeds : ((command overwritingCall []).run
        (sessionWorld pathSettings)).1 = .ok .succeeded := by decide +kernel
    rcases ends : (command overwritingCall []).run
      (sessionWorld pathSettings) with ⟨result, after⟩
    rw [ends] at succeeds
    obtain ⟨overwritten, -⟩ := dataset_after_command
      (sessionWorld_wellFormed pathSettings)
      (show Request.ofArguments overwritingCall =
        .ok (.run (sessionOptions (some "data.json"))) by decide +kernel)
      loadSession_pathSettings
      (found _ (.inl rfl)) (sessionWorld_apart pathSettings 0) ends
    rintro ⟨other, kept⟩
    exact overwritten ⟨succeeds, rfl, rfl⟩ other kept
  · have fails : ((command plainCall []).run
        (sessionWorld logSettings)).1 = .ok .failed := by decide +kernel
    rcases ends : (command plainCall []).run (sessionWorld logSettings) with
      ⟨result, after⟩
    rw [ends] at fails
    obtain ⟨isReady, announces⟩ := readySession_announces
    rcases ready : readySession logSettings (some "data.json") with
      ⟨logResult, world⟩
    rw [ready] at isReady announces
    cases logResult with
    | error failure => cases isReady
    | ok handlers =>
        obtain ⟨-, left⟩ := dataset_after_command
          (sessionWorld_wellFormed logSettings)
          (show Request.ofArguments plainCall =
            .ok (.run (sessionOptions none)) by decide +kernel)
          loadSession_logSettings
          (found _ (.inr rfl)) (sessionWorld_apart logSettings 0) ends
        have notSucceeded : result ≠ .ok .succeeded := by
          rw [show result = .ok .failed from fails]
          decide
        obtain ⟨added, here, -, isLonger⟩ :=
          left fun succeeds => notSucceeded succeeds.1
        rintro ⟨other, kept⟩
        have content : emptyDataset = emptyDataset ++ added := by
          injection Option.some.inj (kept.symm.trans here)
        exact isLonger handlers world ready announces
          (List.self_eq_append_right.mp content)

/-- A call can change its dataset. -/
theorem command_overwrites_dataset :
    ¬ ∀ (arguments : List Text) (options : Options)
      (configuration : Configuration) (world loaded : World)
      (place : List Text) (identity : Nat) (content : List UInt8),
      world.files.WellFormed →
      Request.ofArguments arguments = .ok (.run options) →
      (Configuration.load (options.config.map PathName.ofText)).run world =
        (.ok configuration, loaded) →
      world.files.find (options.overriding configuration).input =
        .ok (.present place (.file identity content)) →
      ¬ world.logging.WritesTo identity →
      ∃ other, ((command arguments []).run world).2.files.node? place =
        some (.file other content) := by
  intro claim
  obtain ⟨other, kept⟩ := claim overwritingCall
    (sessionOptions (some "data.json")) (sessionConfiguration none)
    (sessionWorld pathSettings) (loadSession pathSettings).2 ["data.json"] 0
    emptyDataset (sessionWorld_wellFormed pathSettings) (by decide +kernel)
    loadSession_pathSettings (by decide +kernel)
    (sessionWorld_apart pathSettings 0)
  have changed : ((((command overwritingCall []).run
      (sessionWorld pathSettings)).2.files.node? ["data.json"]).any
        fun node => match node with
          | .file _ bytes => bytes == emptyDataset
          | .directory => false) = false := by
    decide +kernel
  rw [kept] at changed
  simp at changed

end Sessions

end VestingContract
