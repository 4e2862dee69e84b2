import VestingContract.Proofs.CommandLine.Dataset
import VestingContract.Proofs.CommandLine.Endings
import VestingContract.Proofs.Dataset.Format
import VestingContract.Proofs.Run.Keeping

/-!
# Dry runs

A dry run and the call without `--dry-run` are the same up to the last stage.
What the one prints is what the other writes, only the call can fail there,
and of all files beside the log file nothing but a replaced output is ever
different afterwards.
-/

namespace VestingContract

open Stateful

namespace Options

section Stages

variable {options : Options} {world middle : World}
  {configuration : Configuration} {generation : Generation}
  (wellFormed : world.files.WellFormed)
  (noHandlers : world.logging.handlers = [])

theorem onlyRecords_endWith (result : Except Failure Generation) :
    Relates World.OnlyRecords (endWith result) := by
  cases result with
  | ok generation =>
      exact .bind World.OnlyRecords.trans (Action.onlyRecords_log _ _ _ _)
        fun _ => Action.onlyRecords_pure _
  | error failure =>
      simp only [endWith]
      split
      · exact .bind World.OnlyRecords.trans (Action.onlyRecords_log _ _ _ _)
          fun _ => Action.onlyRecords_pure _
      · exact Action.onlyRecords_throw _

theorem ensures_endWithout_keeps (options : Options) (failure : Failure) :
    Ensures (World.KeepsAllFiles world) (options.endWithout failure)
      (fun _ => World.KeepsFiles world) (fun _ => World.KeepsFiles world) := by
  have logs : Preserves (World.KeepsFiles world) (Action.log 40 logger
      "Configuration error: %s" [.text failure.message]) :=
    (Action.onlyRecords_log _ _ _ _).preserves fun _ _ =>
      World.KeepsFiles.of_onlyRecords
  exact (ensures_setUpLogging_keeps world _ _ _ _).bind fun _ =>
    logs.bind fun _ => .pure fun _ kept => kept

include wellFormed noHandlers

theorem keepsAllFiles_of_load {given : Option PathName} {loaded : World}
    {result : Except Failure Configuration}
    (loads : (Configuration.load given).run world = (result, loaded)) :
    world.KeepsAllFiles loaded := by
  have only := Configuration.onlyRecords_load given world
  rw [loads] at only
  exact .of_onlyRecords only (.refl wellFormed noHandlers)

theorem keepsFiles_of_setUpLogging {given : Configuration}
    {loaded after : World} {result : Except Failure (List Handler)}
    (loads : (Configuration.load
      (options.config.map PathName.ofText)).run world = (.ok given, loaded))
    (logs : (options.setUpLogging given).run loaded = (result, after)) :
    world.KeepsFiles after := by
  have kept := keepsAllFiles_of_load wellFormed noHandlers loads
  have holds := ensures_setUpLogging_keeps world _ _ _ _ loaded kept result
    after logs
  cases result <;> exact holds

theorem keepsFiles_of_readies {ready : World}
    (readies : options.Readies world configuration ready) :
    world.KeepsFiles ready := by
  obtain ⟨given, loaded, handlers, logged, loads, logs, -, rfl⟩ := readies
  have kept := keepsFiles_of_setUpLogging wellFormed noHandlers loads logs
  exact kept

/-- Until the contract is delivered no file has changed but the log file. -/
theorem keepsFiles_of_renders
    (renders : options.Renders world configuration generation middle) :
    world.KeepsFiles middle := by
  obtain ⟨ready, readies, generates⟩ := renders
  have only := configuration.onlyRecords_generate ready
  rw [generates] at only
  exact .of_onlyRecords only
    (keepsFiles_of_readies wellFormed noHandlers readies)

omit wellFormed noHandlers in
theorem output_of_renders
    (renders : options.Renders world configuration generation middle) :
    middle.output = world.output := by
  obtain ⟨ready, ⟨given, loaded, handlers, logged, loads, logs, -, rfl⟩,
    generates⟩ := renders
  have onlyLoaded := Configuration.onlyRecords_load
    (options.config.map PathName.ofText) world
  have prints := printsNothing_setUpLogging
    (options.logLevel.getD given.logging.level) given.logging.file
    given.logging.json logFields loaded
  have onlyMiddle := configuration.onlyRecords_generate
    logged.reportingUncaught
  have sameLogged : logged.output = loaded.output := by
    rw [setUpLogging] at logs
    rwa [logs] at prints
  rw [loads] at onlyLoaded
  rw [generates] at onlyMiddle
  exact onlyMiddle.output.trans (sameLogged.trans onlyLoaded.output)

/-- A call that does not come to its contract is the same as its dry run.  It
does not succeed and changes no file but the log file. -/
theorem call_cases_dryRun (requestable : options.HasRequestableLevel) :
    (∃ result after, (options.call []).run world = (result, after) ∧
      ({ options with dryRun := true }.call []).run world =
        (result, after) ∧
      result ≠ .ok .succeeded ∧ world.KeepsFiles after) ∨
    ∃ configuration generation middle,
      options.Renders world configuration generation middle := by
  -- No stage before the delivery reads the field in which the two differ.
  let dry : Options := { options with dryRun := true }
  rcases options.stage world with
    ⟨failure, loaded, fails⟩ | ⟨given, loaded, failure, after, loads, fails⟩ |
      ⟨configuration, ready, failure, after, readies, fails⟩ |
      ⟨configuration, generation, middle, renders⟩
  · have kept := keepsAllFiles_of_load wellFormed noHandlers fails
    have failsDry : (Configuration.load
      (dry.config.map PathName.ofText)).run world = (.error failure, loaded) :=
        fails
    by_cases isOfConfiguration : failure.isOfConfiguration = true
    · obtain ⟨after, ends⟩ := run_endWithout requestable failure loaded
      have endsDry : (dry.endWithout failure).run loaded =
        (.ok .failed, after) := ends
      refine .inl ⟨.ok .failed, after, ?_, ?_, by simp, ?_⟩
      · rw [run_call fails]
        simp only [isOfConfiguration, if_true, ends]
      · rw [run_call failsDry]
        simp only [isOfConfiguration, if_true, endsDry]
      · exact ensures_endWithout_keeps options failure loaded kept _ _ ends
    · refine .inl ⟨.error failure, loaded, ?_, ?_, by simp, kept.keepsFiles⟩
      · rw [run_call fails]
        simp only [isOfConfiguration]
        rfl
      · rw [run_call failsDry]
        simp only [isOfConfiguration]
        rfl
  · have loadsDry : (Configuration.load
      (dry.config.map PathName.ofText)).run world = (.ok given, loaded) :=
        loads
    exact .inl ⟨.error failure, after, run_call_of_unready loads fails,
      run_call_of_unready loadsDry fails, by simp,
      keepsFiles_of_setUpLogging wellFormed noHandlers loads fails⟩
  · have readiesDry : dry.Readies world configuration ready := readies
    have only := configuration.onlyRecords_generate ready
    rw [fails] at only
    have onlyLater := onlyRecords_endWith (.error failure) after
    have kept := (keepsFiles_of_readies wellFormed noHandlers
      readies).of_onlyRecords (only.trans onlyLater)
    refine .inl ⟨_, _, run_call_of_not_generated readies fails,
      run_call_of_not_generated readiesDry fails,
      run_endWith_error_ne failure after, kept⟩
  · exact .inr ⟨configuration, generation, middle, renders⟩

end Stages

/-- The contract of a call holds no lone surrogate. -/
def RendersWhole (options : Options) (world : World) : Prop :=
  ∀ configuration generation middle,
    options.Renders world configuration generation middle →
      Text.IsWhole generation.text

/-- A dry run can print its contract only if that is whole. -/
theorem rendersWhole_of_completes {options : Options} {world : World}
    (completes : Options.Completes { options with dryRun := true } world) :
    options.RendersWhole world := by
  intro configuration generation middle renders
  obtain ⟨_, printed, _, rendersDry, encodes, -⟩ := completes
  have rendersAlso : options.Renders world _ printed _ := rendersDry
  obtain rfl := renders.unique rendersAlso
  obtain ⟨bytes, encoded⟩ := encodes rfl
  obtain ⟨chars, whole, -⟩ := Utf8.encode_eq_ok_iff.mp encoded
  exact ⟨chars, whole⟩

/-- How a call and its dry run, each begun in the same world, are related. -/
structure DryRunAgrees (options : Options) (world : World)
    (dry real : Except Failure Ending × World) : Prop where
  /-- A call that succeeds has written what its dry run prints. -/
  printed : real.1 = .ok .succeeded →
    dry.1 = .ok .succeeded ∧
    ∃ given loaded text bytes place identity,
      (Configuration.load (options.config.map PathName.ofText)).run world =
        (.ok given, loaded) ∧
      dry.2.output = world.output ++ text ∧
      Utf8.encode text = .ok bytes ∧
      real.2.files.find (options.overriding given).output =
        .ok (.present place (.file identity bytes))
  failed : dry.1 = .ok .failed → real.1 = .ok .failed
  escaped : ∀ failure, dry.1 = .error failure → real.1 = .error failure
  /-- Where a dry run succeeds, only the writing of the output can fail. -/
  succeeded : dry.1 = .ok .succeeded →
    real.1 = .ok .succeeded ∨
    ∃ configuration generation middle failure files,
      options.Renders world configuration generation middle ∧
      (FileAction.replaceText middle.platform.device configuration.output
        generation.text).run middle.files = (.error failure, files)
  /-- A dry run leaves every file as it was, but for the log file. -/
  dryKeeps : ∀ path identity content, ¬ dry.2.logging.WritesTo identity →
    (dry.2.files.node? path = some (.file identity content) ↔
      world.files.node? path = some (.file identity content))
  /-- A call succeeds just if a new file stands at its output. -/
  replaced : real.1 = .ok .succeeded ↔
    ∃ given loaded identity content,
      (Configuration.load (options.config.map PathName.ofText)).run world =
        (.ok given, loaded) ∧
      world.files.nextIdentity ≤ identity ∧
      ¬ real.2.logging.WritesTo identity ∧
      real.2.files.node?
          (world.files.absolute (options.overriding given).output).names =
        some (.file identity content)
  /-- A call that fails leaves every file as it was, but for the log file. -/
  realKeeps : real.1 = .ok .failed →
    ∀ path identity content, ¬ real.2.logging.WritesTo identity →
      (real.2.files.node? path = some (.file identity content) ↔
        world.files.node? path = some (.file identity content))

section Agreement

variable {options : Options} {world : World}
  (wellFormed : world.files.WellFormed)
  (noHandlers : world.logging.handlers = [])

include wellFormed

/-- What changes no file but the log file puts no new file anywhere. -/
theorem not_replaced_of_keepsFiles {after : World} {path : List Text}
    {identity : Nat} {content : List UInt8} (kept : world.KeepsFiles after)
    (isNew : world.files.nextIdentity ≤ identity)
    (apart : ¬ after.logging.WritesTo identity) :
    after.files.node? path ≠ some (.file identity content) := by
  intro here
  have before := (kept.files path identity content apart).mp here
  have known := wellFormed.fresh path identity content before
  omega

theorem DryRunAgrees.of_same {result : Except Failure Ending} {after : World}
    (notSucceeded : result ≠ .ok .succeeded)
    (kept : world.KeepsFiles after) :
    options.DryRunAgrees world (result, after) (result, after) where
  printed succeeds := absurd succeeds notSucceeded
  failed fails := fails
  escaped _ fails := fails
  succeeded succeeds := absurd succeeds notSucceeded
  dryKeeps := kept.files
  replaced := by
    refine ⟨fun succeeds => absurd succeeds notSucceeded, ?_⟩
    rintro ⟨_, _, identity, content, -, isNew, apart, here⟩
    exact absurd here
      (not_replaced_of_keepsFiles wellFormed kept isNew apart)
  realKeeps _ := kept.files

include noHandlers

section Rendered

variable {configuration : Configuration} {generation : Generation}
  {middle : World}
  (renders : options.Renders world configuration generation middle)

include renders

theorem run_dryRun_of_renders {bytes : List UInt8}
    (encoded : Utf8.encode generation.text = .ok bytes) :
    ∃ after, ({ options with dryRun := true }.call []).run world =
        (.ok .succeeded, after) ∧
      after.output = world.output ++ generation.text ∧
      world.KeepsFiles after := by
  let dry : Options := { options with dryRun := true }
  have delivers : (dry.deliver configuration generation).run middle =
      (.ok generation, middle.print generation.text) :=
    run_deliver_of_dryRun rfl encoded
  have rendersDry : dry.Renders world configuration generation middle :=
    renders
  have only := onlyRecords_endWith (.ok generation)
    (middle.print generation.text)
  have kept := keepsFiles_of_renders wellFormed noHandlers renders
  have keptPrinted : world.KeepsFiles (middle.print generation.text) := kept
  refine ⟨_, run_call_of_renders rendersDry delivers, ?_,
    keptPrinted.of_onlyRecords only⟩
  rw [← output_of_renders renders]
  exact only.output

omit wellFormed noHandlers in
theorem exists_given_of_renders :
    ∃ given loaded, (Configuration.load
        (options.config.map PathName.ofText)).run world =
          (.ok given, loaded) ∧
      configuration = options.overriding given := by
  obtain ⟨_, ⟨given, loaded, _, _, loads, _, overrides, _⟩, _⟩ := renders
  exact ⟨given, loaded, loads, overrides⟩

/-- The output leads to the same place in the world that a call begins in and
in the one that its contract is delivered in. -/
theorem absolute_of_renders (path : PathName) :
    middle.files.absolute path = world.files.absolute path := by
  have kept := keepsFiles_of_renders wellFormed noHandlers renders
  exact kept.directories.absolute_eq path

theorem DryRunAgrees.of_unwritten {failure : FileFailure} {files : FileTree}
    {dryAfter after : World} {result : Except Failure Ending}
    (fails : (FileAction.replaceText middle.platform.device
      configuration.output generation.text).run middle.files =
        (.error failure, files))
    (spares : FileAction.SparesTarget configuration.output failure
      middle.files files)
    (dryKept : world.KeepsFiles dryAfter)
    (ends : (endWith (.error (.files failure))).run
      { middle with files := files } = (result, after)) :
    options.DryRunAgrees world (.ok .succeeded, dryAfter) (result, after) := by
  have kept := keepsFiles_of_renders wellFormed noHandlers renders
  have only := onlyRecords_endWith (.error (.files failure))
    { middle with files := files }
  have notSucceeded := run_endWith_error_ne (.files failure)
    { middle with files := files }
  rw [ends] at only notSucceeded
  refine ⟨fun succeeds => absurd succeeds notSucceeded, fun dryFails => ?_,
    fun _ dryFails => ?_, fun _ => .inr ⟨configuration, generation, middle,
      failure, files, renders, fails⟩, dryKept.files, ?_, fun fails => ?_⟩
  · cases dryFails
  · cases dryFails
  · refine ⟨fun succeeds => absurd succeeds notSucceeded, ?_⟩
    rintro ⟨given, loaded, identity, content, loads, isNew, apart, here⟩
    obtain ⟨other, _, otherLoads, rfl⟩ := exists_given_of_renders renders
    rw [loads] at otherLoads
    cases otherLoads
    rw [only.logging] at apart
    have written := (only.node?_file_iff apart).mp here
    rw [← absolute_of_renders wellFormed noHandlers renders] at written
    exact absurd (spares.place identity content written)
      (not_replaced_of_keepsFiles wellFormed kept isNew apart)
  · -- A text without an encoding would leave the call by its failure.
    have noEncoding : ∀ fault, failure ≠ .encoding fault := by
      rintro fault rfl
      rw [run_endWith_of_silent rfl] at ends
      cases ends
      cases fails
    exact ((kept.withFiles (spares.same noEncoding)).of_onlyRecords only).files

theorem DryRunAgrees.of_written {bytes : List UInt8} {place : List Text}
    {files : FileTree} {dryAfter after : World}
    (encoded : Utf8.encode generation.text = .ok bytes)
    (replaced : middle.files.Replaced configuration.output bytes place files)
    (isNew : files.node? place =
      some (.file middle.files.nextIdentity bytes))
    (dryOutput : dryAfter.output = world.output ++ generation.text)
    (dryKept : world.KeepsFiles dryAfter)
    (only : World.OnlyRecords { middle with files := files } after) :
    options.DryRunAgrees world (.ok .succeeded, dryAfter)
      (.ok .succeeded, after) := by
  have kept := keepsFiles_of_renders wellFormed noHandlers renders
  obtain ⟨given, loaded, loads, rfl⟩ := exists_given_of_renders renders
  have apart : ¬ middle.logging.WritesTo middle.files.nextIdentity :=
    fun isLog => Nat.lt_irrefl _ (kept.known _ isLog)
  obtain ⟨identity, found⟩ := replaced.found
  obtain ⟨-, -, -, -, here⟩ := replaced.wellFormed.exists_leads_of_file found
  obtain rfl : middle.files.nextIdentity = identity := by
    rw [isNew] at here
    cases here
    rfl
  obtain ⟨added, foundAfter, isNone⟩ := only.find found
  rw [isNone apart, List.append_nil] at foundAfter
  have placeEq : place =
      (world.files.absolute (options.overriding given).output).names := by
    rw [← absolute_of_renders wellFormed noHandlers renders]
    exact replaced.place_eq
  refine ⟨fun _ => ⟨rfl, given, loaded, generation.text, bytes, place, _,
      loads, dryOutput, encoded, foundAfter⟩, fun dryFails => ?_,
    fun _ dryFails => ?_, fun _ => .inl rfl, dryKept.files,
    ⟨fun _ => ?_, fun _ => rfl⟩, fun fails => ?_⟩
  · cases dryFails
  · cases dryFails
  · refine ⟨given, loaded, _, bytes, loads, kept.later, ?_, ?_⟩
    · rw [only.logging]
      exact apart
    · rw [← placeEq]
      exact (only.node?_file_iff apart).mpr here
  · cases fails

end Rendered

omit wellFormed noHandlers in
theorem dryRunAgrees_call (wellFormed : world.files.WellFormed)
    (noHandlers : world.logging.handlers = [])
    (requestable : options.HasRequestableLevel)
    (real : options.dryRun = false)
    (whole : options.RendersWhole world) :
    options.DryRunAgrees world
      (({ options with dryRun := true }.call []).run world)
      ((options.call []).run world) := by
  rcases call_cases_dryRun wellFormed noHandlers requestable with
    ⟨result, after, ends, dryEnds, notSucceeded, kept⟩ |
      ⟨configuration, generation, middle, renders⟩
  · rw [ends, dryEnds]
    exact .of_same wellFormed notSucceeded kept
  · obtain ⟨chars, isWhole⟩ := whole configuration generation middle renders
    have encoded := Utf8.encode_eq_ok_iff.mpr ⟨chars, isWhole, rfl⟩
    obtain ⟨dryAfter, dryEnds, dryOutput, dryKept⟩ :=
      run_dryRun_of_renders wellFormed noHandlers renders encoded
    have kept := keepsFiles_of_renders wellFormed noHandlers renders
    rw [dryEnds]
    rcases FileAction.replaceText_cases configuration.output kept.wellFormed
        generation.text with
      ⟨failure, files, fails, spares⟩ |
        ⟨bytes, place, files, ends, encoded, replaced, isNew⟩
    · rw [run_call_of_renders renders (run_deliver_of_error real fails)]
      exact .of_unwritten wellFormed noHandlers renders fails spares dryKept
        rfl
    · obtain ⟨after, only, delivers⟩ := run_deliver_of_ok real ends
      rw [run_call_of_renders renders delivers]
      exact .of_written wellFormed noHandlers renders encoded replaced isNew
        dryOutput dryKept
        (only.trans (onlyRecords_endWith (.ok generation) after))

end Agreement

end Options

theorem sessionOptions_rendersWhole :
    (sessionOptions none).RendersWhole (sessionWorld pathSettings) := by
  have requestable : (sessionOptions none).HasRequestableLevel := nofun
  have succeeds : ((Options.call { sessionOptions none with dryRun := true }
      []).run (sessionWorld pathSettings)).1 = .ok .succeeded := by
    decide +kernel
  exact Options.rendersWhole_of_completes
    (Options.completes_of_call requestable succeeds)

end VestingContract
