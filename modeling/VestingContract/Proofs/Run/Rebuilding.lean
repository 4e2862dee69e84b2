import VestingContract.Proofs.File.Repeating
import VestingContract.Proofs.Run.Pipeline

/-!
# Rebuilding a contract

What a run generates depends on the bytes of its dataset and on nothing else.
A run that ends well leaves its dataset as it is, unless this is its output,
and its output replaceable.  So the next run ends well with the same result,
and it leaves the files as the run before has left them.
-/

namespace VestingContract

open Stateful

namespace FileTree

variable {tree after : FileTree}

/-- A replacement leads no path elsewhere that leads to another file. -/
theorem Replaced.find_other {target path : PathName} {bytes : List UInt8}
    {place other : List Text} {identity : Nat} {content : List UInt8}
    (replaced : tree.Replaced target bytes place after)
    (wellFormed : tree.WellFormed)
    (found : tree.find path = .ok (.present other (.file identity content)))
    (elsewhere : other ≠ place) :
    after.find path = .ok (.present other (.file identity content)) := by
  obtain ⟨directory, name, leads, rfl, here⟩ :=
    wellFormed.exists_leads_of_file found
  rw [(leads.of_keepsDirectories replaced.directories).find, placeAt_of_some]
  exact (replaced.others _ elsewhere _ _).mpr here

theorem read_of_find {path : PathName} {place : List Text} {identity : Nat}
    {content : List UInt8}
    (found : tree.find path = .ok (.present place (.file identity content))) :
    tree.read path = .ok content := by
  rw [read, found]
  rfl

end FileTree

namespace Configuration

variable (configuration : Configuration)

/-- What a configuration generates from the bytes of a dataset. -/
def Generates (content : List UInt8) (generation : Generation) : Prop :=
  ∃ dataset, Dataset.ofBytes content = .ok dataset ∧
    renderContract configuration.template dataset = .ok generation.text ∧
    generation = ⟨configuration.input, configuration.output, dataset.total,
      dataset.categories, generation.text⟩

variable {configuration} {content : List UInt8} {generation : Generation}
  {world after : World}

theorem Generates.unique {other : Generation}
    (generates : configuration.Generates content generation)
    (generatesOther : configuration.Generates content other) :
    generation = other := by
  obtain ⟨dataset, holds, rendered, generationEq⟩ := generates
  obtain ⟨same, sameHolds, sameRendered, otherEq⟩ := generatesOther
  rw [holds] at sameHolds
  cases sameHolds
  rw [rendered] at sameRendered
  rw [generationEq, otherEq, Except.ok.inj sameRendered]

/-- The dataset of a configuration can be read, and the configuration
generates a result from it. -/
structure ReadsFrom (configuration : Configuration) (generation : Generation)
    (content : List UInt8) (tree : FileTree) : Prop where
  valid : PathName.check configuration.input.toText = .ok ()
  found : ∃ place identity,
    tree.find configuration.input =
      .ok (.present place (.file identity content))
  generates : configuration.Generates content generation

/-- What has been generated comes from the bytes of the dataset. -/
theorem exists_readsFrom_of_generate (quiet : world.logging.WritesNoFile)
    (ends : (configuration.generate .file []).run world =
      (.ok generation, after)) :
    ∃ content, configuration.ReadsFrom generation content world.files := by
  rcases configuration.generate_cases world with
    ⟨failure, other, -, -, fails⟩ |
      ⟨dataset, loaded, text, other, -, loads, rendered, generated⟩
  · rw [ends] at fails
    cases fails
  · rw [ends] at generated
    cases generated
    rcases Dataset.load_cases configuration.input world with
      ⟨fault, fails⟩ | ⟨place, identity, content, valid, found, goesOn⟩
    · rw [loads] at fails
      cases fails
    · rw [(Dataset.onlyRecords_announced _ world).files_eq quiet] at found
      rw [loads] at goesOn
      exact ⟨content, valid, ⟨place, identity, found⟩, dataset,
        Dataset.ofBytes_of_loadContent goesOn.symm, rendered, rfl⟩

/-- From the bytes of a dataset that can be read, the result is generated. -/
theorem ReadsFrom.exists_run_generate
    (reads : configuration.ReadsFrom generation content world.files)
    (quiet : world.logging.WritesNoFile) :
    ∃ after, (configuration.generate .file []).run world =
      (.ok generation, after) := by
  obtain ⟨valid, ⟨place, identity, found⟩, dataset, holds, rendered,
    generationEq⟩ := reads
  obtain ⟨loaded, loads⟩ :=
    Dataset.load_of_ofBytes found valid (quiet identity) holds
  rcases configuration.generate_cases world with
    ⟨failure, other, -, fails, -⟩ |
      ⟨same, again, text, after, -, loadsAgain, renderedAgain, generated⟩
  · rw [loads] at fails
    cases fails
  · rw [loads] at loadsAgain
    cases loadsAgain
    rw [rendered] at renderedAgain
    cases renderedAgain
    exact ⟨after, generationEq ▸ generated⟩

/-- Without log files a run that generates a result and can replace its output
ends well. -/
theorem run_of_parts (quiet : world.logging.WritesNoFile)
    {middle : World} {files : FileTree}
    (generated : (configuration.generate .file []).run world =
      (.ok generation, middle))
    (replaced : (FileAction.replaceText world.platform.device
      configuration.output generation.text).run world.files =
        (.ok ⟨⟩, files)) :
    ∃ after, (configuration.run .file .file []).run world =
        (.ok generation, after) ∧
      after.files = files ∧ after.logging = world.logging ∧
      after.platform = world.platform := by
  have only := configuration.onlyRecords_generate world
  rw [generated] at only
  have sameFiles : middle.files = world.files := only.files_eq quiet
  have onWorld := Action.run_onFiles (FileAction.replaceText
    world.platform.device configuration.output generation.text) middle
  rw [sameFiles, replaced] at onWorld
  have replaces := Action.run_replaceText configuration.output
    generation.text middle
  have samePlatform : middle.platform = world.platform := only.platform
  rw [samePlatform, run_bind_of_ok onWorld] at replaces
  have written : (Sink.file.write configuration.output generation.text).run
      middle = _ := replaces
  have logged := (Action.onlyRecords_log 10 "allocgen.utils.fs"
    "Wrote %d characters to %s" [.int generation.text.length,
      .text configuration.output.toText] { middle with files := files }).trans
    (Action.onlyRecords_log 20 "allocgen.pipeline"
      "Wrote %d allocations in %d categories to %s"
      [.int generation.total, .int generation.categories.length,
        .text configuration.output.toText] _)
  have quietLater : middle.logging.WritesNoFile := by
    rw [only.logging]
    exact quiet
  refine ⟨_, ?_, logged.files_eq quietLater,
    logged.logging.trans only.logging, logged.platform.trans only.platform⟩
  rw [run, run_bind_of_ok generated, run_bind_of_ok written]
  rfl

/-- A run without log files that ends well has generated its result and
replaced its output. -/
theorem parts_of_run (quiet : world.logging.WritesNoFile)
    (ends : (configuration.run .file .file []).run world =
      (.ok generation, after)) :
    (∃ middle, (configuration.generate .file []).run world =
      (.ok generation, middle)) ∧
    (FileAction.replaceText world.platform.device configuration.output
      generation.text).run world.files = (.ok ⟨⟩, after.files) ∧
    after.logging = world.logging ∧ after.platform = world.platform := by
  have only := configuration.onlyRecords_generate world
  rcases generated : (configuration.generate .file []).run world with
    ⟨result, middle⟩
  rw [generated] at only
  cases result with
  | error failure =>
      rw [run, run_bind_of_error generated] at ends
      cases ends
  | ok other =>
      rcases replaced : (FileAction.replaceText world.platform.device
        configuration.output other.text).run world.files with ⟨outcome, files⟩
      cases outcome with
      | error failure =>
          have sameFiles : middle.files = world.files := only.files_eq quiet
          have onWorld := Action.run_onFiles (FileAction.replaceText
            world.platform.device configuration.output other.text) middle
          rw [sameFiles, replaced] at onWorld
          have replaces := Action.run_replaceText configuration.output
            other.text middle
          have samePlatform : middle.platform = world.platform :=
            only.platform
          rw [samePlatform, run_bind_of_error onWorld] at replaces
          have written : (Sink.file.write configuration.output
              other.text).run middle = _ := replaces
          rw [run, run_bind_of_ok generated, run_bind_of_error written] at ends
          cases ends
      | ok value =>
          obtain ⟨reached, runs, filesEq, same⟩ :=
            run_of_parts quiet generated replaced
          rw [ends] at runs
          cases runs
          rw [filesEq]
          exact ⟨⟨middle, rfl⟩, replaced, same⟩

/-- A world in which a run has ended well, with the result of the run.  The
dataset is still there, the output can be replaced, and it holds the text. -/
structure IsBuilt (configuration : Configuration) (generation : Generation)
    (world : World) : Prop where
  quiet : world.logging.WritesNoFile
  reads : ∃ content, configuration.ReadsFrom generation content world.files
  replaceable : FileAction.Replaceable world.platform.device
    configuration.output world.files
  written : ∃ bytes, Utf8.encode generation.text = .ok bytes ∧
    world.files.content? (world.files.absolute configuration.output).names =
      some bytes
  apart : (world.files.absolute configuration.input).names ≠
    (world.files.absolute configuration.output).names

/-- The output of a run that ends well holds the text of its result. -/
theorem exists_bytes_of_run (wellFormed : world.files.WellFormed)
    (quiet : world.logging.WritesNoFile)
    (ends : (configuration.run .file .file []).run world =
      (.ok generation, after)) :
    ∃ bytes, Utf8.encode generation.text = .ok bytes ∧
      world.files.Replaced configuration.output bytes
        (world.files.absolute configuration.output).names after.files := by
  obtain ⟨-, replaced, -⟩ := parts_of_run quiet ends
  rcases FileAction.replaceText_cases configuration.output wellFormed
      generation.text with
    ⟨failure, other, fails, -⟩ | ⟨bytes, place, other, goes, encoded, steps, -⟩
  · rw [replaced] at fails
    cases fails
  · rw [replaced] at goes
    cases goes
    exact ⟨bytes, encoded, steps.place_eq ▸ steps⟩

/-- After a run that ends well the next one can do the same. -/
theorem isBuilt_of_run (wellFormed : world.files.WellFormed)
    (quiet : world.logging.WritesNoFile)
    (apart : (world.files.absolute configuration.input).names ≠
      (world.files.absolute configuration.output).names)
    (ends : (configuration.run .file .file []).run world =
      (.ok generation, after)) :
    configuration.IsBuilt generation after := by
  obtain ⟨bytes, encoded, steps⟩ := exists_bytes_of_run wellFormed quiet ends
  obtain ⟨⟨middle, generated⟩, replaced, sameLogging, samePlatform⟩ :=
    parts_of_run quiet ends
  obtain ⟨content, valid, ⟨place, owner, found⟩, generates⟩ :=
    exists_readsFrom_of_generate quiet generated
  have placeEq := wellFormed.path_eq_absolute found
  have elsewhere : place ≠ (world.files.absolute
      configuration.output).names := fun same => apart (placeEq ▸ same)
  have kept := steps.directories
  refine ⟨sameLogging ▸ quiet, ⟨content, valid, ⟨place, owner,
    steps.find_other wellFormed found elsewhere⟩, generates⟩,
    samePlatform ▸ FileAction.replaceable_of_replaceText wellFormed replaced,
    ⟨bytes, encoded, ?_⟩, ?_⟩
  · obtain ⟨identity, here⟩ := steps.found
    rw [kept.absolute_eq]
    exact FileTree.content?_eq_some_iff.mpr
      ⟨identity, FileTree.node?_of_find here⟩
  · rw [kept.absolute_eq, kept.absolute_eq]
    exact apart

/-- One more run ends well with the same result and changes nothing that can
be seen. -/
theorem IsBuilt.run (built : configuration.IsBuilt generation world) :
    ∃ after, (configuration.run .file .file []).run world =
        (.ok generation, after) ∧
      configuration.IsBuilt generation after ∧
      world.files.LooksLike after.files := by
  obtain ⟨content, reads⟩ := built.reads
  obtain ⟨bytes, encoded, here⟩ := built.written
  obtain ⟨middle, generated⟩ := reads.exists_run_generate built.quiet
  obtain ⟨files, replaced, -, sameDirectory, nodes⟩ :=
    built.replaceable.run_replaceText encoded
  obtain ⟨after, ends, rfl, -⟩ := run_of_parts built.quiet generated replaced
  exact ⟨after, ends, isBuilt_of_run built.replaceable.wellFormed built.quiet
    built.apart ends, FileTree.looksLike_of_put here sameDirectory nodes⟩

/-- Run several times, one run after the other. -/
def runTimes (configuration : Configuration) :
    Nat → Action (List Generation)
  | 0 => return []
  | times + 1 => do
      let generation ← configuration.run .file .file []
      let others ← configuration.runTimes times
      return generation :: others

/-- Any number of further runs end well with the same result, and nothing
changes that can be seen. -/
theorem IsBuilt.runTimes (built : configuration.IsBuilt generation world)
    (times : Nat) :
    ∃ after, (configuration.runTimes times).run world =
        (.ok (List.replicate times generation), after) ∧
      world.files.LooksLike after.files := by
  induction times generalizing world with
  | zero => exact ⟨world, rfl, .refl world.files⟩
  | succ times ih =>
      obtain ⟨middle, ends, builtLater, looksLike⟩ := built.run
      obtain ⟨after, runsOn, looksLikeLater⟩ := ih builtLater
      refine ⟨after, ?_, looksLike.trans looksLikeLater⟩
      rw [Configuration.runTimes, run_bind_of_ok ends, run_bind_of_ok runsOn]
      rfl

/-- A contract is rebuilt as a whole from its dataset.  Two runs without log
files that end well, in worlds with the same bytes of the dataset, have the
same result and write the same bytes to their outputs, whatever these held
before.  If the dataset is not the output, any number of further runs end well
with this result too, and leave everything as the first run has left it. -/
theorem run_rebuilds {first second afterFirst afterSecond : World}
    {generation other : Generation}
    (wellFormedFirst : first.files.WellFormed)
    (wellFormedSecond : second.files.WellFormed)
    (quietFirst : first.logging.WritesNoFile)
    (quietSecond : second.logging.WritesNoFile)
    (sameDataset : second.files.read configuration.input =
      first.files.read configuration.input)
    (endsFirst : (configuration.run .file .file []).run first =
      (.ok generation, afterFirst))
    (endsSecond : (configuration.run .file .file []).run second =
      (.ok other, afterSecond)) :
    other = generation ∧
    (∃ bytes, Utf8.encode generation.text = .ok bytes ∧
      afterFirst.files.read configuration.output = .ok bytes ∧
      afterSecond.files.read configuration.output = .ok bytes) ∧
    ((first.files.absolute configuration.input).names ≠
        (first.files.absolute configuration.output).names →
      ∀ times, ∃ later, (configuration.runTimes times).run afterFirst =
          (.ok (List.replicate times generation), later) ∧
        afterFirst.files.LooksLike later.files) := by
  obtain ⟨⟨_, generatedFirst⟩, -, -⟩ := parts_of_run quietFirst endsFirst
  obtain ⟨⟨_, generatedSecond⟩, -, -⟩ := parts_of_run quietSecond endsSecond
  obtain ⟨content, -, ⟨_, _, found⟩, generates⟩ :=
    exists_readsFrom_of_generate quietFirst generatedFirst
  obtain ⟨contentSecond, -, ⟨_, _, foundSecond⟩, generatesSecond⟩ :=
    exists_readsFrom_of_generate quietSecond generatedSecond
  rw [FileTree.read_of_find found, FileTree.read_of_find foundSecond]
    at sameDataset
  cases sameDataset
  obtain rfl := generatesSecond.unique generates
  refine ⟨rfl, ?_, fun apart => ?_⟩
  · obtain ⟨bytes, encoded, replaced⟩ :=
      exists_bytes_of_run wellFormedFirst quietFirst endsFirst
    obtain ⟨bytesSecond, encodedSecond, replacedSecond⟩ :=
      exists_bytes_of_run wellFormedSecond quietSecond endsSecond
    rw [encoded] at encodedSecond
    cases encodedSecond
    obtain ⟨_, here⟩ := replaced.found
    obtain ⟨_, hereSecond⟩ := replacedSecond.found
    exact ⟨bytes, encoded, FileTree.read_of_find here,
      FileTree.read_of_find hereSecond⟩
  · exact (isBuilt_of_run wellFormedFirst quietFirst apart endsFirst).runTimes

section Stale

/-- A dataset without categories, and nothing else. -/
def freshFiles : FileTree :=
  ⟨[([("data.json" : Text)], .file 0 (Utf8.encodeChars
    "\x7b\x7d".toList))], [], 1⟩

/-- The dataset beside an output that holds something else. -/
def staleFiles : FileTree :=
  ⟨[([("data.json" : Text)], .file 0 (Utf8.encodeChars
    "\x7b\x7d".toList)), ([("out.sol" : Text)], .file 1 [111])], [], 2⟩

/-- A configuration that takes the dataset to the output. -/
def beside : Configuration :=
  ⟨⟨0, ["data.json"]⟩, ⟨0, ["out.sol"]⟩, .standard, .standard⟩

theorem freshFiles_wellFormed : freshFiles.WellFormed := by
  apply FileTree.wellFormed_of_root rfl
  · intro entry member
    obtain rfl := List.mem_singleton.mp member
    exact ⟨_, rfl, by decide⟩
  · intro entry member identity content same
    obtain rfl := List.mem_singleton.mp member
    cases same
    exact Nat.one_pos

theorem staleFiles_wellFormed : staleFiles.WellFormed :=
  FileTree.wellFormed_pair (by decide) (by decide)

/-- The output is the same whether it was there before or not, and five more
runs change nothing. -/
theorem run_rebuilds_stale :
    ∃ generation afterFresh afterStale later,
      (beside.run .file .file []).run
        { unencodableWorld with files := freshFiles } =
          (.ok generation, afterFresh) ∧
      (beside.run .file .file []).run
        { unencodableWorld with files := staleFiles } =
          (.ok generation, afterStale) ∧
      (beside.runTimes 5).run afterFresh =
        (.ok (List.replicate 5 generation), later) ∧
      afterFresh.files.LooksLike later.files := by
  have outcome : ((beside.run .file .file []).run
        { unencodableWorld with files := freshFiles }).1.isOk ∧
      ((beside.run .file .file []).run
        { unencodableWorld with files := staleFiles }).1.isOk := by
    decide +kernel
  obtain ⟨isFresh, isStale⟩ := outcome
  rcases fresh : (beside.run .file .file []).run
    { unencodableWorld with files := freshFiles } with ⟨result, afterFresh⟩
  rcases stale : (beside.run .file .file []).run
    { unencodableWorld with files := staleFiles } with ⟨other, afterStale⟩
  rw [fresh] at isFresh
  rw [stale] at isStale
  cases result with
  | error failure => cases isFresh
  | ok generation =>
      cases other with
      | error failure => cases isStale
      | ok same =>
          obtain ⟨rfl, -, again⟩ := @run_rebuilds beside
            { unencodableWorld with files := freshFiles }
            { unencodableWorld with files := staleFiles } _ _ _ _
            freshFiles_wellFormed staleFiles_wellFormed
            unencodableWorld_writesNoFile unencodableWorld_writesNoFile
            (by decide +kernel) fresh stale
          obtain ⟨later, runs, looksLike⟩ := again (by decide) 5
          exact ⟨same, afterFresh, afterStale, later, rfl, rfl, runs,
            looksLike⟩

end Stale

end Configuration

end VestingContract
