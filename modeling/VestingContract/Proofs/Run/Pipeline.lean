import VestingContract.Proofs.File.Replacing
import VestingContract.Proofs.Run.Load
import VestingContract.Run.Pipeline

/-!
# Runs are all or nothing

Until the contract is written a run only writes records.  Writing replaces
the output as a whole or leaves every file as it was, so a run either puts the
contract of its dataset in place and changes no other file, or changes none.
-/

namespace VestingContract

open Stateful

namespace Action

theorem run_logNotices (notices : List RenderNotice) (world : World) :
    ∃ after, World.OnlyRecords world after ∧
      (notices.forM logNotice).run world = (.ok ⟨⟩, after) := by
  induction notices generalizing world with
  | nil => exact ⟨world, .refl world, rfl⟩
  | cons notice notices ih =>
      obtain ⟨next, only, logged⟩ : ∃ next, World.OnlyRecords world next ∧
          (logNotice notice).run world = (.ok ⟨⟩, next) := by
        cases notice with
        | total count => exact ⟨_, onlyRecords_log _ _ _ _ world, rfl⟩
        | category count name =>
            exact ⟨_, onlyRecords_log _ _ _ _ world, rfl⟩
      obtain ⟨after, onlyLater, loggedLater⟩ := ih next
      refine ⟨after, only.trans onlyLater, ?_⟩
      rw [List.forM, run_bind_of_ok logged, loggedLater]

theorem run_takeRendering (rendering : Rendering) (world : World) :
    ∃ after, World.OnlyRecords world after ∧
      (takeRendering rendering).run world =
        (rendering.outcome.mapError Failure.rendering, after) := by
  obtain ⟨after, only, logged⟩ := run_logNotices rendering.notices world
  refine ⟨after, only, ?_⟩
  rw [takeRendering, run_bind_of_ok logged]
  cases rendering.outcome <;> rfl

theorem run_replaceText (path : PathName) (text : Text) (world : World) :
    (replaceText path text).run world =
      (onFiles (FileAction.replaceText world.platform.device path text) >>=
        fun _ => log 10 "allocgen.utils.fs" "Wrote %d characters to %s"
          [.int text.length, .text path.toText]).run world := by
  rw [replaceText, run_bind_of_ok (run_get world)]

/-- Writing a text replaces its file and writes a record, or it spares the
files. -/
theorem replaceText_cases (path : PathName) (text : Text) (world : World)
    (wellFormed : world.files.WellFormed) :
    (∃ failure files, world.files.SparesName path.name files ∧
      (replaceText path text).run world =
        (.error failure, { world with files := files })) ∨
    ∃ bytes place files after, Utf8.encode text = .ok bytes ∧
      world.files.Replaced path bytes place files ∧
      World.OnlyRecords { world with files := files } after ∧
      (replaceText path text).run world = (.ok ⟨⟩, after) := by
  have onWorld := run_onFiles
    (FileAction.replaceText world.platform.device path text) world
  rcases FileAction.replaceText_cases path wellFormed text with
    ⟨failure, files, ends, spares⟩ |
      ⟨bytes, place, files, ends, encoded, replaced, -⟩
  · rw [ends] at onWorld
    refine .inl ⟨.files failure, files, spares.spares, ?_⟩
    rw [run_replaceText, run_bind_of_error onWorld]
  · rw [ends] at onWorld
    have only := onlyRecords_log 10 "allocgen.utils.fs"
      "Wrote %d characters to %s" [.int text.length, .text path.toText]
      { world with files := files }
    refine .inr ⟨bytes, place, files, _, encoded, replaced, only, ?_⟩
    rw [run_replaceText, run_bind_of_ok onWorld]
    rfl

end Action

namespace Configuration

variable (configuration : Configuration) (world : World)

/-- Generating writes records only.  It fails just if loading fails, for what
has been loaded can be rendered. -/
theorem generate_cases :
    (∃ failure after, World.OnlyRecords world after ∧
      (Dataset.load configuration.input).run world =
        (.error failure, after) ∧
      (configuration.generate .file []).run world =
        (.error failure, after)) ∨
    ∃ dataset loaded text after, World.OnlyRecords world after ∧
      (Dataset.load configuration.input).run world =
        (.ok dataset, loaded) ∧
      renderContract configuration.template dataset = .ok text ∧
      (configuration.generate .file []).run world =
        (.ok ⟨configuration.input, configuration.output, dataset.total,
          dataset.categories, text⟩, after) := by
  have only := Dataset.onlyRecords_load configuration.input world
  rcases ends : (Dataset.load configuration.input).run world with
    ⟨result, loaded⟩
  rw [ends] at only
  have source : (Source.file.load configuration.input).run world =
      (result, loaded) := ends
  cases result with
  | error failure =>
      refine .inl ⟨failure, loaded, only, rfl, ?_⟩
      rw [generate, run_bind_of_error source]
  | ok dataset =>
      obtain ⟨after, onlyLater, taken⟩ := Action.run_takeRendering
        ((Generator.new configuration.template).generate [] dataset) loaded
      obtain ⟨text, rendered⟩ :=
        Dataset.renderContract_of_load ends configuration.template
      rw [← renderContract, rendered] at taken
      refine .inr ⟨dataset, loaded, text, after, only.trans onlyLater, rfl,
        rendered, ?_⟩
      rw [generate, run_bind_of_ok source, run_bind_of_ok taken]
      rfl

theorem onlyRecords_generate :
    Relates World.OnlyRecords (configuration.generate .file []) := by
  intro world
  rcases configuration.generate_cases world with
    ⟨_, _, only, -, ends⟩ | ⟨_, _, _, _, only, -, -, ends⟩ <;>
    exact ends ▸ only

variable {configuration world}

theorem generate_of_load_error {failure : Failure} {after : World}
    (fails : (Dataset.load configuration.input).run world =
      (.error failure, after)) :
    (configuration.generate .file []).run world = (.error failure, after) := by
  have source : (Source.file.load configuration.input).run world =
      (.error failure, after) := fails
  rw [generate, run_bind_of_error source]

theorem load_error_of_generate {failure : Failure} {after : World}
    (fails : (configuration.generate .file []).run world =
      (.error failure, after)) :
    (Dataset.load configuration.input).run world =
      (.error failure, after) := by
  rcases configuration.generate_cases world with
    ⟨_, _, -, unloaded, generated⟩ | ⟨_, _, _, _, -, -, -, generated⟩
  all_goals
    rw [fails] at generated
    cases generated
  exact unloaded

variable (configuration world)

/-- A run first writes records.  It then fails and spares the files, or it
replaces its output by the contract and writes records again. -/
theorem run_cases
    (wellFormed : ∀ after, World.OnlyRecords world after →
      after.files.WellFormed) :
    (∃ failure middle files, World.OnlyRecords world middle ∧
      middle.files.SparesName configuration.output.name files ∧
      (configuration.run .file .file []).run world =
        (.error failure, { middle with files := files })) ∨
    ∃ dataset loaded text bytes place middle files after,
      (Dataset.load configuration.input).run world =
        (.ok dataset, loaded) ∧
      renderContract configuration.template dataset = .ok text ∧
      Utf8.encode text = .ok bytes ∧
      World.OnlyRecords world middle ∧
      middle.files.Replaced configuration.output bytes place files ∧
      World.OnlyRecords { middle with files := files } after ∧
      (configuration.run .file .file []).run world =
        (.ok ⟨configuration.input, configuration.output, dataset.total,
          dataset.categories, text⟩, after) := by
  rcases configuration.generate_cases world with
    ⟨failure, middle, only, -, generated⟩ |
      ⟨dataset, loaded, text, middle, only, isLoaded, rendered, generated⟩
  · refine .inl ⟨failure, middle, middle.files, only, ?_, ?_⟩
    · exact .of_onlyDirectories (wellFormed middle only) (.refl _)
    · rw [run, run_bind_of_error generated]
  · rcases Action.replaceText_cases configuration.output text middle
        (wellFormed middle only) with
      ⟨failure, files, spares, ends⟩ |
        ⟨bytes, place, files, after, encoded, replaced, onlyLater, ends⟩
    · have written : (Sink.file.write configuration.output text).run middle =
          (.error failure, { middle with files := files }) := ends
      refine .inl ⟨failure, middle, files, only, spares, ?_⟩
      rw [run, run_bind_of_ok generated, run_bind_of_error written]
    · have written : (Sink.file.write configuration.output text).run middle =
          (.ok ⟨⟩, after) := ends
      have onlyLast := Action.onlyRecords_log 20 "allocgen.pipeline"
        "Wrote %d allocations in %d categories to %s"
        [.int dataset.total, .int dataset.categories.length,
          .text configuration.output.toText] after
      refine .inr ⟨dataset, loaded, text, bytes, place, middle, files, _,
        isLoaded, rendered, encoded, only, replaced,
        onlyLater.trans onlyLast, ?_⟩
      rw [run, run_bind_of_ok generated, run_bind_of_ok written]
      rfl

variable {world}

/-- A run without log files is all or nothing.  If it ends well, the output
holds the contract of the dataset that loading gives, and every other file is
as it was.  If it fails, every file is as it was, and a file that the output
leads to was there before; without a step upward the output led to it. -/
theorem run_allOrNothing (wellFormed : world.files.WellFormed)
    (quiet : world.logging.WritesNoFile) :
    (∃ generation after dataset loaded bytes place identity,
      (configuration.run .file .file []).run world =
        (.ok generation, after) ∧
      (Dataset.load configuration.input).run world =
        (.ok dataset, loaded) ∧
      renderContract configuration.template dataset =
        .ok generation.text ∧
      generation.total = dataset.total ∧
      generation.categories = dataset.categories ∧
      Utf8.encode generation.text = .ok bytes ∧
      after.files.find configuration.output =
        .ok (.present place (.file identity bytes)) ∧
      ∀ path, path ≠ place → ∀ other content,
        after.files.node? path = some (.file other content) ↔
          world.files.node? path = some (.file other content)) ∨
    ∃ failure after,
      (configuration.run .file .file []).run world =
        (.error failure, after) ∧
      (∀ path identity content,
        world.files.node? path = some (.file identity content) →
          after.files.node? path = some (.file identity content)) ∧
      ∀ place identity content,
        after.files.find configuration.output =
          .ok (.present place (.file identity content)) →
        world.files.node? place = some (.file identity content) ∧
          ((".." : Text) ∉ configuration.output.names →
            world.files.find configuration.output =
              .ok (.present place (.file identity content))) := by
  have sameFiles : ∀ {after}, World.OnlyRecords world after →
      after.files = world.files := fun only => only.files_eq quiet
  rcases configuration.run_cases world fun after only => by
      rw [sameFiles only]
      exact wellFormed with
    ⟨failure, middle, files, only, spares, ends⟩ |
      ⟨dataset, loaded, text, bytes, place, middle, files, after, isLoaded,
        rendered, encoded, only, replaced, onlyLater, ends⟩
  · rw [sameFiles only] at spares
    refine .inr ⟨failure, _, ends, spares.keeps, ?_⟩
    intro place identity content found
    have here := spares.node?_of_find found
    refine ⟨here, fun noStep => ?_⟩
    exact wellFormed.find_of_node? spares.directories.workingDirectory noStep
      found here
  · have quietLater : middle.logging.WritesNoFile := by
      rw [only.logging]
      exact quiet
    have filesEq : after.files = files := onlyLater.files_eq quietLater
    rw [sameFiles only] at replaced
    obtain ⟨identity, found⟩ := replaced.found
    refine .inl ⟨_, after, dataset, loaded, bytes, place, identity, ends,
      isLoaded, rendered, rfl, rfl, encoded, ?_, ?_⟩
    · rw [filesEq, found]
    · rw [filesEq]
      exact replaced.others

section Unencodable

/-- A dataset whose category has no encoding, and a contract beside it. -/
def unencodableWorld : World where
  files := ⟨[([("data.json" : Text)], .file 0 (Utf8.encodeChars
    "\x7b\"A\\ud800\":[]\x7d".toList)),
    ([("out.sol" : Text)], .file 1 [])], [], 2⟩
  logging := .initial
  output := []
  errors := []
  uses := []
  clock := .null
  terminal := false
  shipped := ⟨1, []⟩

/-- A configuration whose output goes up from a directory that is missing. -/
def detour : Configuration :=
  ⟨⟨0, ["data.json"]⟩, ⟨0, ["d", "..", "out.sol"]⟩, .standard, .standard⟩

theorem unencodableWorld_wellFormed :
    unencodableWorld.files.WellFormed :=
  FileTree.wellFormed_pair (by decide) (by decide)

theorem unencodableWorld_writesNoFile :
    unencodableWorld.logging.WritesNoFile := by
  rintro identity ⟨style, attached⟩
  exact absurd attached List.not_mem_nil

theorem run_detour_fails : ∃ failure after,
    (detour.run .file .file []).run unencodableWorld =
      (.error failure, after) ∧
    after.files.find detour.output =
      .ok (.present [("out.sol" : Text)] (.file 1 [])) := by
  have outcome : ((detour.run .file .file []).run
        unencodableWorld).1.isOk = false ∧
      ((detour.run .file .file []).run
        unencodableWorld).2.files.find detour.output =
          .ok (.present [("out.sol" : Text)] (.file 1 [])) := by
    decide +kernel
  obtain ⟨failed, found⟩ := outcome
  rcases ends : (detour.run .file .file []).run unencodableWorld with
    ⟨result, after⟩
  rw [ends] at failed found
  cases result with
  | ok generation => cases failed
  | error failure => exact ⟨failure, after, rfl, found⟩

/-- The run without an encoding leaves both files as they were. -/
theorem run_allOrNothing_detour : ∃ failure after,
    (detour.run .file .file []).run unencodableWorld =
      (.error failure, after) ∧
    ∀ path identity content,
      unencodableWorld.files.node? path = some (.file identity content) →
        after.files.node? path = some (.file identity content) := by
  obtain ⟨_, _, failed, -⟩ := run_detour_fails
  rcases run_allOrNothing detour unencodableWorld_wellFormed
      unencodableWorld_writesNoFile with
    ⟨_, _, _, _, _, _, _, ends, -⟩ | ⟨failure, after, ends, keeps, -⟩
  · rw [failed] at ends
    cases ends
  · exact ⟨failure, after, ends, keeps⟩

/-- A run that fails can still make the directory without which its output led
nowhere. -/
theorem run_opens_detour :
    ¬ ∀ (configuration : Configuration) (world : World),
      world.files.WellFormed → world.logging.WritesNoFile →
      ∀ failure after, (configuration.run .file .file []).run world =
        (.error failure, after) →
      (∀ place identity content, world.files.find configuration.output ≠
        .ok (.present place (.file identity content))) →
      ∀ place identity content, after.files.find configuration.output ≠
        .ok (.present place (.file identity content)) := by
  intro claim
  have missing : unencodableWorld.files.find detour.output =
      .error .noEntry := by decide +kernel
  obtain ⟨failure, after, failed, found⟩ := run_detour_fails
  refine claim detour unencodableWorld unencodableWorld_wellFormed
    unencodableWorld_writesNoFile failure after failed ?_ _ _ _ found
  intro place identity content same
  rw [missing] at same
  cases same

end Unencodable

end Configuration

end VestingContract
