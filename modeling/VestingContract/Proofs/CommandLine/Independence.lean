import VestingContract.Proofs.CommandLine.Dataset
import VestingContract.Proofs.Run.Indifference

/-!
# Calls do not depend on logging

A call ends in the same way whatever has been done to the logging of its
process before: with the same result, the same output and the same files, log
files apart.  Its handlers write elsewhere than its configuration and its
dataset stand, for otherwise it would read what it has logged.
-/

namespace VestingContract

open Stateful

namespace FileTree

variable {isLog : Nat → Prop} {tree after : FileTree}
  {path logPath : PathName}

/-- The file at the place that a path spells is no log file. -/
def StandsApart (isLog : Nat → Prop) (path : PathName) (tree : FileTree) :
    Prop :=
  ∀ identity content,
    tree.node? (tree.absolute path).names = some (.file identity content) →
      ¬ isLog identity

/-- Two paths spell different places with different files. -/
structure PlacesDiffer (path other : PathName) (tree : FileTree) : Prop where
  places : (tree.absolute path).names ≠ (tree.absolute other).names
  files : tree.StandsApart (fun identity => ∃ content,
    tree.node? (tree.absolute other).names = some (.file identity content))
      path

/-- A path leads to no log file if none stands at the place that it spells. -/
theorem StandsApart.avoids (apart : tree.StandsApart isLog path)
    (wellFormed : tree.WellFormed) (identity : Nat)
    (known : isLog identity) : tree.Avoids path identity := by
  intro place content found
  have placeEq : place = (tree.absolute path).names :=
    wellFormed.path_eq_absolute found
  have here := node?_of_find found
  rw [placeEq] at here
  exact apart identity content here known

theorem StandsApart.of_files (apart : tree.StandsApart isLog path)
    (sameDirectory : after.workingDirectory = tree.workingDirectory)
    (sameFiles : ∀ place identity content,
      after.node? place = some (.file identity content) →
        ∃ before, tree.node? place = some (.file identity before)) :
    after.StandsApart isLog path := by
  intro identity content here
  rw [absolute_congr sameDirectory] at here
  obtain ⟨before, there⟩ := sameFiles _ identity content here
  exact apart identity before there

theorem PlacesDiffer.of_files (differ : tree.PlacesDiffer path logPath)
    (sameDirectory : after.workingDirectory = tree.workingDirectory)
    (sameFiles : ∀ place identity content,
      after.node? place = some (.file identity content) →
        ∃ before, tree.node? place = some (.file identity before)) :
    after.PlacesDiffer path logPath := by
  refine ⟨?_, fun identity content here => ?_⟩
  · rw [absolute_congr sameDirectory, absolute_congr sameDirectory]
    exact differ.places
  · rintro ⟨other, there⟩
    rw [absolute_congr sameDirectory] at here there
    obtain ⟨before, wasHere⟩ := sameFiles _ _ _ here
    obtain ⟨otherBefore, wasThere⟩ := sameFiles _ _ _ there
    exact differ.files identity before wasHere ⟨otherBefore, wasThere⟩

theorem exists_file_of_appendAll {additions : List (Nat × List UInt8)}
    {place : List Text} {identity : Nat} {content : List UInt8}
    (here : (tree.appendAll additions).node? place =
      some (.file identity content)) :
    ∃ before, tree.node? place = some (.file identity before) := by
  induction additions generalizing tree with
  | nil => exact ⟨content, here⟩
  | cons addition additions ih =>
      obtain ⟨middle, there⟩ := ih here
      rw [node?_append, Option.map_eq_some_iff] at there
      obtain ⟨node, found, appended⟩ := there
      cases node with
      | directory => cases appended
      | file owner before =>
          rw [Node.append] at appended
          split at appended <;> cases appended <;> exact ⟨_, found⟩

/-- A log file that is opened at another place is another file. -/
theorem standsApart_of_openToAppend {identity : Nat}
    (wellFormed : tree.WellFormed) (apart : tree.StandsApart isLog path)
    (differ : tree.PlacesDiffer path logPath)
    (opened : tree.openToAppend (tree.absolute logPath) =
      .ok (identity, after)) :
    after.WellFormed ∧
      after.StandsApart (fun other => isLog other ∨ other = identity)
        path := by
  rcases openToAppend_cases wellFormed opened with
    ⟨rfl, place, content, found⟩ |
      ⟨directory, name, leads, absent, rfl, rfl⟩
  · have placeEq : place = _ := wellFormed.path_eq_absolute found
    have there := node?_of_find found
    rw [placeEq, names_absolute_absolute] at there
    refine ⟨wellFormed, fun owner bytes here => ?_⟩
    rintro (known | rfl)
    · exact apart owner bytes here known
    · exact differ.files owner bytes here ⟨content, there⟩
  · have placeEq := wellFormed.path_eq_absolute leads.find
    rw [path_placeAt, names_absolute_absolute] at placeEq
    refine ⟨wellFormed_withFile wellFormed leads absent [],
      fun owner bytes here => ?_⟩
    change (tree.withFile _ []).node? (tree.absolute path).names = _ at here
    rw [node?_withFile wellFormed (by simp), placeEq, if_neg differ.places]
      at here
    rintro (known | rfl)
    · exact apart owner bytes here known
    · exact Nat.lt_irrefl _ (wellFormed.fresh _ _ _ here)

end FileTree

section Setup

variable {isLog : Nat → Prop} {path : PathName}

/-- No log file stands at the place that a path spells, and the log file that
is opened next stands elsewhere. -/
structure World.StandsBeside (isLog : Nat → Prop) (path : PathName)
    (logFile : Option Text) (world : World) : Prop where
  wellFormed : world.files.WellFormed
  apart : world.files.StandsApart isLog path
  elsewhere : ∀ name, logFile = some name → name ≠ [] →
    world.files.PlacesDiffer path (PathName.ofText name)

theorem World.StandsBeside.of_onlyRecords {world after : World}
    {logFile : Option Text} (only : World.OnlyRecords world after)
    (beside : world.StandsBeside isLog path logFile) :
    after.StandsBeside isLog path logFile := by
  obtain ⟨additions, filesEq, -⟩ := only.files
  have sameDirectory : after.files.workingDirectory =
      world.files.workingDirectory := by
    rw [filesEq, FileTree.workingDirectory_appendAll]
  have sameFiles : ∀ place identity content,
      after.files.node? place = some (.file identity content) →
        ∃ before, world.files.node? place =
          some (.file identity before) := by
    intro place identity content here
    rw [filesEq] at here
    exact FileTree.exists_file_of_appendAll here
  refine ⟨?_, beside.apart.of_files sameDirectory sameFiles,
    fun name named nonempty => (beside.elsewhere name named
      nonempty).of_files sameDirectory sameFiles⟩
  rw [filesEq]
  exact FileTree.wellFormed_appendAll beside.wellFormed additions

theorem ensures_openLogFile_apart (logPath : PathName) :
    Ensures (fun world => world.files.WellFormed ∧
        world.files.StandsApart isLog path ∧
        world.files.PlacesDiffer path logPath)
      (Action.openLogFile logPath)
      (fun identity world => world.files.WellFormed ∧
        world.files.StandsApart (fun other => isLog other ∨ other = identity)
          path)
      (fun _ _ => True) := by
  rintro world ⟨wellFormed, apart, differ⟩ result after ends
  obtain ⟨base, wellFormedBase, only, cases⟩ :=
    run_openLogFile_cases wellFormed ends
  rcases cases with ⟨failure, rfl, rfl⟩ | ⟨identity, files, rfl, opened, rfl⟩
  · trivial
  · have sameFiles : ∀ place identity content,
        base.node? place = some (.file identity content) →
        ∃ before, world.files.node? place = some (.file identity before) :=
      fun place identity content here =>
        ⟨content, only.node?_file_iff.mp here⟩
    exact FileTree.standsApart_of_openToAppend wellFormedBase
      (apart.of_files only.workingDirectory sameFiles)
      (differ.of_files only.workingDirectory sameFiles) opened

/-- The handlers of a log file at another place write to another file. -/
theorem ensures_fileHandler_apart (logFile : Option Text) (json : Bool) :
    Ensures (World.StandsBeside isLog path logFile)
      (Action.fileHandler logFile json)
      (fun handlers world => world.files.WellFormed ∧
        world.files.StandsApart (fun identity => isLog identity ∨
          ∃ style, Handler.file identity style ∈ handlers) path)
      (fun _ _ => True) := by
  have noHandler : Ensures (World.StandsBeside isLog path logFile)
      (pure [] : Action (List Handler))
      (fun handlers world => world.files.WellFormed ∧
        world.files.StandsApart (fun identity => isLog identity ∨
          ∃ style, Handler.file identity style ∈ handlers) path)
      (fun _ _ => True) := by
    apply Ensures.pure
    intro world beside
    simpa using ⟨beside.wellFormed, beside.apart⟩
  cases logFile with
  | none => exact noHandler
  | some name =>
      cases name with
      | nil => exact noHandler
      | cons first rest =>
          have opens := @ensures_openLogFile_apart isLog path
            (PathName.ofText (first :: rest))
          refine Ensures.bind (fun world beside => opens world
            ⟨beside.wellFormed, beside.apart,
              beside.elsewhere _ rfl (by simp)⟩) fun identity => ?_
          apply Ensures.pure
          rintro world ⟨wellFormed, apart⟩
          refine ⟨wellFormed, ?_⟩
          simpa using apart

/-- No log file stands at the place that a path spells. -/
def World.NoLogAt (isLog : Nat → Prop) (path : PathName) (world : World) :
    Prop :=
  world.files.WellFormed ∧ world.files.StandsApart (world.IsLog isLog) path

theorem preserves_onLogging_noLogAt {change : LogState → LogState}
    (same : ∀ state, (change state).handlers = state.handlers) :
    Preserves (World.NoLogAt isLog path) (Action.onLogging change) := by
  apply Ensures.modify
  rintro world ⟨wellFormed, apart⟩
  refine ⟨wellFormed, fun identity content here => ?_⟩
  have writes : (change world.logging).WritesTo identity ↔
      world.logging.WritesTo identity := by
    rw [LogState.WritesTo, LogState.WritesTo, same]
  exact mt (Or.imp_right writes.mp) (apart identity content here)

theorem preserves_pushContext_noLogAt (fields : List (Value × Value)) :
    Preserves (World.NoLogAt isLog path) (Action.pushContext fields) := by
  unfold Action.pushContext
  split
  · exact .throw fun _ holds => holds
  · exact preserves_onLogging_noLogAt fun _ => rfl

theorem ensures_install_noLogAt (level : Int) (colored : Bool)
    (handlers : List Handler) :
    Ensures (fun world => (world.files.WellFormed ∧
        world.files.StandsApart (fun identity => isLog identity ∨
          ∃ style, Handler.file identity style ∈ handlers) path) ∧
        world.WritesOldOnly isLog)
      (Action.onLogging fun state =>
        state.install level (.console colored :: handlers))
      (fun _ => World.NoLogAt isLog path) (fun _ _ => True) := by
  apply Ensures.modify
  rintro world ⟨⟨wellFormed, apart⟩, oldOnly⟩
  refine ⟨wellFormed, fun identity content here => ?_⟩
  rintro (known | ⟨style, attached⟩)
  · exact apart identity content here (.inl known)
  · rcases List.mem_append.mp attached with before | added
    · exact apart identity content here
        (.inl (oldOnly identity ⟨style, before⟩))
    · exact apart identity content here (.inr ⟨style, by simpa using added⟩)

/-- After a setup whose log file is elsewhere, no log file stands at the place
that a path spells. -/
theorem ensures_setUpLogging_noLogAt (levelText : Text)
    (logFile : Option Text) (json : Bool) (fields : List (Value × Value)) :
    Ensures (fun world => world.StandsBeside isLog path logFile ∧
        world.WritesOldOnly isLog)
      (Action.setUpLogging levelText logFile json fields)
      (fun _ => World.NoLogAt isLog path) (fun _ _ => True) := by
  -- Only the opening of the log file can break the invariant, and the file
  -- that it opens stands apart from the path.
  have removes : Ensures (fun world =>
        world.StandsBeside isLog path logFile ∧ world.WritesOldOnly isLog)
      (Action.onLogging LogState.withoutInstalled)
      (fun _ world => world.StandsBeside isLog path logFile ∧
        world.WritesOldOnly isLog)
      (fun _ _ => True) := by
    apply Ensures.modify
    rintro world ⟨⟨wellFormed, apart, elsewhere⟩, oldOnly⟩
    refine ⟨⟨wellFormed, apart, elsewhere⟩, ?_⟩
    rintro identity ⟨style, attached⟩
    exact oldOnly identity ⟨style, List.mem_of_mem_filter attached⟩
  have opens : Ensures (fun world =>
        world.StandsBeside isLog path logFile ∧ world.WritesOldOnly isLog)
      (Action.fileHandler logFile json)
      (fun handlers world => (world.files.WellFormed ∧
        world.files.StandsApart (fun identity => isLog identity ∨
          ∃ style, Handler.file identity style ∈ handlers) path) ∧
        world.WritesOldOnly isLog)
      (fun _ _ => True) := by
    rintro world ⟨beside, oldOnly⟩ result after ends
    have opened := ensures_fileHandler_apart logFile json world beside result
      after ends
    have sameLogging := sameLogging_fileHandler logFile json world
    rw [ends] at sameLogging
    cases result with
    | error failure => trivial
    | ok handlers =>
        exact ⟨opened, fun identity writes =>
          oldOnly identity (sameLogging ▸ writes)⟩
  have captures : Preserves (World.NoLogAt isLog path) (Action.onLogging
      fun state => { state with capturesWarnings := true }) :=
    preserves_onLogging_noLogAt fun _ => rfl
  have pushes : Preserves (World.NoLogAt isLog path)
      (Action.pushContext fields) :=
    preserves_pushContext_noLogAt fields
  exact ensures_setUpLogging_of_stages (fun _ _ => trivial) removes opens
    (fun level current handlers _ _ =>
      ensures_install_noLogAt level current.terminal handlers)
    (pushes.imp (fun _ _ holds => holds) fun _ _ _ => trivial)
    (captures.imp (fun _ _ holds => holds) fun _ _ _ => trivial)

end Setup

section Calls

variable {old : Nat → Prop} {options : Options}
  {configuration : Configuration}

namespace Options

theorem indifferent_deliver (generation : Generation) :
    Indifferent (World.AlikeBut old)
      (options.deliver configuration generation) := by
  unfold deliver
  split
  · have prints : Indifferent (World.AlikeBut old)
        (Action.print generation.text) := by
      rw [Action.print]
      split
      · exact indifferent_throw _
      · exact .modify fun world other alike => ⟨alike.files, by
          change other.output ++ _ = world.output ++ _
          rw [alike.output], alike.terminal, alike.shipped, alike.platform,
          alike.otherWrites⟩
    exact prints.bind fun _ => indifferent_pure generation
  · exact (Action.indifferent_replaceText _ _).bind fun _ =>
      (indifferent_log _ _ _ _).bind fun _ => indifferent_pure generation

theorem agrees_perform :
    Agrees (fun world other => world.AlikeBut old other ∧
        world.ReadsNoLog old configuration.input)
      (options.perform configuration []) (fun _ => World.AlikeBut old)
      (World.AlikeBut old) := by
  rw [perform_eq]
  exact (configuration.agrees_generate []).bind fun generation =>
    indifferent_deliver generation

theorem indifferent_reportFailure (message : Text) (failure : Failure) :
    Indifferent (World.AlikeBut old) (reportFailure message failure) :=
  (indifferent_log _ _ _ _).bind fun _ => indifferent_pure _

theorem indifferent_endWith (outcome : Except Failure Generation) :
    Indifferent (World.AlikeBut old) (endWith outcome) := by
  cases outcome with
  | ok generation =>
      exact (indifferent_log _ _ _ _).bind fun _ => indifferent_pure _
  | error failure =>
      unfold endWith
      simp only
      split
      · exact indifferent_reportFailure _ failure
      · exact indifferent_throw failure

theorem agrees_outcome {α : Type} {work : Action α}
    {before : World → World → Prop}
    (agrees : Agrees before work (fun _ => World.AlikeBut old)
      (World.AlikeBut old)) :
    Agrees before (tryCatch (.ok <$> work)
        (fun failure => return .error failure) : Action (Except Failure α))
      (fun _ => World.AlikeBut old) (World.AlikeBut old) := by
  have wraps : Agrees before
      (.ok <$> work : Action (Except Failure α))
      (fun _ => World.AlikeBut old) (World.AlikeBut old) := .map agrees
  exact wraps.tryCatch fun failure => .pure fun _ _ alike => alike

/-- What follows the setup of logging does not depend on logging. -/
theorem agrees_conclude :
    Agrees (fun world other => world.AlikeBut old other ∧
        world.ReadsNoLog old configuration.input)
      (options.conclude configuration) (fun _ => World.AlikeBut old)
      (World.AlikeBut old) := by
  have reports : Indifferent (World.AlikeBut old) Action.reportUncaught :=
    indifferent_onLogging fun _ => rfl
  have keeps : Preserves (World.ReadsNoLog old configuration.input)
      Action.reportUncaught :=
    .modify fun _ readsNoLog => readsNoLog
  have begins := (reports.and_preserves keeps).imp
    (fun _ _ holds => holds) (fun _ _ _ holds => holds)
    (fun _ _ => And.left)
  exact begins.bind fun _ => (agrees_outcome agrees_perform).bind
    indifferent_endWith

theorem agrees_endWithout (failure : Failure) :
    Agrees (fun world other => world.AlikeBut old other ∧
        world.WritesOldOnly old)
      (options.endWithout failure) (fun _ => World.AlikeBut old)
      (World.AlikeBut old) :=
  (agrees_setUpLogging _ none false logFields).bind fun _ =>
    indifferent_reportFailure _ failure

/-- No log file involved in a call is its configuration or its dataset: the
files of old handlers stand elsewhere, and so does the log file of the
configuration that the call loads. -/
structure KeepsLogsApart (options : Options) (old : Nat → Prop)
    (world : World) : Prop where
  configuration : world.files.StandsApart old
    ((options.config.map PathName.ofText).getD world.shipped)
  dataset : ∀ given loaded,
    (Configuration.load (options.config.map PathName.ofText)).run world =
      (.ok given, loaded) →
    world.files.StandsApart old (options.overriding given).input ∧
    ∀ name, given.logging.file = some name → name ≠ [] →
      world.files.PlacesDiffer (options.overriding given).input
        (PathName.ofText name)

theorem agrees_call {world other : World}
    (wellFormed : world.files.WellFormed)
    (alike : world.AlikeBut old other) (oldOnly : world.WritesOldOnly old)
    (apart : options.KeepsLogsApart old world) :
    ∃ result after otherAfter,
      (options.call []).run world = (result, after) ∧
      (options.call []).run other = (result, otherAfter) ∧
      after.AlikeBut old otherAfter := by
  have isOld : world.IsLog old = old :=
    funext fun identity => propext (oldOnly.isLog_iff identity)
  have readsNoLog : world.ReadsNoLog old
      ((options.config.map PathName.ofText).getD world.shipped) := by
    intro identity isLog
    exact apart.configuration.avoids wellFormed identity (isOld ▸ isLog)
  obtain ⟨result, loaded, otherLoaded, loads, otherLoads, holds⟩ :=
    Configuration.agrees_load (options.config.map PathName.ofText) world other
      ⟨alike, readsNoLog⟩
  have only := Configuration.onlyRecords_load
    (options.config.map PathName.ofText) world
  rw [loads] at only
  -- Loading only records, so no handler has come to a new file and the
  -- invariant of the two worlds still holds before the logging is set up.
  have oldOnlyLater : loaded.WritesOldOnly old := by
    intro identity writes
    rw [only.logging] at writes
    exact oldOnly identity writes
  rw [run_call loads, run_call otherLoads]
  cases result with
  | error failure =>
      simp only
      split
      · obtain ⟨ending, after, otherAfter, ends, otherEnds, alikeAfter⟩ :=
          agrees_endWithout failure loaded otherLoaded ⟨holds, oldOnlyLater⟩
        refine ⟨ending, after, otherAfter, ends, otherEnds, ?_⟩
        cases ending <;> exact alikeAfter
      · exact ⟨_, _, _, rfl, rfl, holds⟩
  | ok given =>
      obtain ⟨apartOld, elsewhere⟩ := apart.dataset given loaded loads
      have beside : loaded.StandsBeside old (options.overriding given).input
          given.logging.file :=
        .of_onlyRecords only ⟨wellFormed, apartOld, elsewhere⟩
      obtain ⟨logResult, ready, otherReady, logs, otherLogs, alikeReady⟩ :=
        @agrees_setUpLogging old
          (options.logLevel.getD given.logging.level) given.logging.file
          given.logging.json logFields loaded otherLoaded
          ⟨holds, oldOnlyLater⟩
      have noLogAt := ensures_setUpLogging_noLogAt
        (options.logLevel.getD given.logging.level) given.logging.file
        given.logging.json logFields loaded ⟨beside, oldOnlyLater⟩ logResult
        ready logs
      simp only [continueWith_eq]
      have sets : (options.setUpLogging given).run loaded =
        (logResult, ready) := logs
      have otherSets : (options.setUpLogging given).run otherLoaded =
        (logResult, otherReady) := otherLogs
      cases logResult with
      | error failure =>
          rw [run_bind_of_error sets, run_bind_of_error otherSets]
          exact ⟨_, _, _, rfl, rfl, alikeReady⟩
      | ok handlers =>
          rw [run_bind_of_ok sets, run_bind_of_ok otherSets]
          -- No log lies at the dataset, whatever file has been opened, so both
          -- runs read the same one.
          obtain ⟨wellFormedReady, apartReady⟩ := noLogAt
          obtain ⟨ending, after, otherAfter, ends, otherEnds, alikeAfter⟩ :=
            @agrees_conclude old options (options.overriding given)
              ready otherReady
              ⟨alikeReady, apartReady.avoids wellFormedReady⟩
          refine ⟨ending, after, otherAfter, ends, otherEnds, ?_⟩
          cases ending <;> exact alikeAfter

end Options

/-- A call does not depend on what has been done to the logging of its process
before.  From any two states of logging it ends with the same result, prints
the same and leaves the same files, log files apart: those of the handlers
that were there, and the one that it has opened itself. -/
theorem command_ignores_logging {world : World}
    (wellFormed : world.files.WellFormed) (first second : LogState)
    (arguments : List Text)
    (apart : ∀ options, Request.ofArguments arguments = .ok (.run options) →
      options.KeepsLogsApart
        (fun identity => first.WritesTo identity ∨ second.WritesTo identity)
        { world with logging := first }) :
    ∃ result afterFirst afterSecond,
      (command arguments []).run { world with logging := first } =
        (result, afterFirst) ∧
      (command arguments []).run { world with logging := second } =
        (result, afterSecond) ∧
      afterSecond.output = afterFirst.output ∧
      afterFirst.files.AlikeBut (fun identity =>
        (first.WritesTo identity ∨ second.WritesTo identity) ∨
          afterFirst.logging.WritesTo identity) afterSecond.files := by
  have alike : World.AlikeBut
      (fun identity => first.WritesTo identity ∨ second.WritesTo identity)
      { world with logging := first } { world with logging := second } :=
    ⟨.refl world.files, rfl, rfl, rfl, rfl, fun _ writes =>
      .inl (.inr writes)⟩
  cases asked : Request.ofArguments arguments with
  | error fault =>
      simp only [command, asked]
      exact ⟨_, _, _, rfl, rfl, rfl, alike.files⟩
  | ok request =>
      cases request with
      | help =>
          simp only [command, asked]
          exact ⟨_, _, _, rfl, rfl, rfl, alike.files⟩
      | run options =>
          obtain ⟨result, after, otherAfter, ends, otherEnds, alikeAfter⟩ :=
            @Options.agrees_call _ options { world with logging := first }
              _ wellFormed alike (fun _ writes => Or.inl writes)
              (apart options asked)
          rw [Options.command_eq asked]
          exact ⟨result, after, otherAfter, ends, otherEnds,
            alikeAfter.output, alikeAfter.files⟩

section Busy

/-- Logging after a setup with a log file, and with a field in its context. -/
def busyLogging : LogState where
  level := 10
  handlers := [.console true, .file 2 .json]
  context := [("run", .int 1)]
  capturesWarnings := true
  reportsUncaught := true

/-- The files of a session beside a log file. -/
def busyWorld : World :=
  { sessionWorld pathSettings with
    files := ⟨[([("data.json" : Text)], .file 0 emptyDataset),
      ([("g.yaml" : Text)], .file 1 (Utf8.encodeChars pathSettings)),
      ([("old.log" : Text)], .file 2 [])], [], 3⟩ }

theorem busyWorld_wellFormed : busyWorld.files.WellFormed := by
  apply FileTree.wellFormed_of_root rfl
  · intro entry member
    simp only [busyWorld, List.mem_cons, List.not_mem_nil, or_false] at member
    rcases member with rfl | rfl | rfl <;> exact ⟨_, rfl, by decide⟩
  · intro entry member identity content same
    simp only [busyWorld, List.mem_cons, List.not_mem_nil, or_false] at member
    rcases member with rfl | rfl | rfl <;> cases same <;> decide

theorem busyLogging_writesTo {identity : Nat}
    (writes : busyLogging.WritesTo identity ∨
      LogState.initial.WritesTo identity) : identity = 2 := by
  rcases writes with ⟨style, attached⟩ | ⟨style, attached⟩
  · obtain ⟨same, -⟩ : identity = 2 ∧ style = .json := by
      simpa [busyLogging] using attached
    exact same
  · exact absurd attached List.not_mem_nil

/-- A call whose process logs to a file and one in a fresh process end in the
same way. -/
theorem command_ignores_logging_busy :
    ∃ result afterBusy afterFresh,
      (command plainCall []).run { busyWorld with logging := busyLogging } =
        (result, afterBusy) ∧
      (command plainCall []).run { busyWorld with logging := .initial } =
        (result, afterFresh) ∧
      afterFresh.output = afterBusy.output ∧
      afterBusy.files.AlikeBut (fun identity =>
        (busyLogging.WritesTo identity ∨
          LogState.initial.WritesTo identity) ∨
          afterBusy.logging.WritesTo identity) afterFresh.files := by
  have loads : ((Configuration.load (some (PathName.ofText "g.yaml"))).run
      { busyWorld with logging := busyLogging }).1 =
        .ok (sessionConfiguration none) := by decide +kernel
  refine command_ignores_logging busyWorld_wellFormed busyLogging .initial
    plainCall fun options asked => ?_
  obtain rfl : sessionOptions none = options := by
    have same : Request.ofArguments plainCall =
      .ok (.run (sessionOptions none)) := by decide +kernel
    rw [same] at asked
    cases asked
    rfl
  constructor
  · intro identity content here writes
    obtain rfl := busyLogging_writesTo writes
    have there : busyWorld.files.node? ["g.yaml"] =
      some (.file 1 (Utf8.encodeChars pathSettings)) := by decide +kernel
    cases there.symm.trans here
  · intro given loaded ends
    obtain rfl : sessionConfiguration none = given := by
      have same := loads.symm.trans (congrArg Prod.fst ends)
      cases same
      rfl
    refine ⟨fun identity content here writes => ?_, ?_⟩
    · obtain rfl := busyLogging_writesTo writes
      have there : busyWorld.files.node? ["data.json"] =
        some (.file 0 emptyDataset) := by decide +kernel
      cases there.symm.trans here
    · intro name named
      cases named

end Busy

end Calls

end VestingContract
