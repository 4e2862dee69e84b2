import VestingContract.Proofs.Contract.Bytes
import VestingContract.Proofs.Run.Pipeline
import VestingContract.Proofs.Run.Watching

/-!
# What a run does to its dataset

A run that ends well has read a dataset from its file.  Its contract is not
the beginning of these bytes, so they are gone for good if the output is the
same file.  Otherwise the run adds records to the file at most.
-/

namespace VestingContract

open Stateful

namespace World

/-- The record about the loading of a path. -/
def announcement (world : World) (path : PathName) : Record :=
  world.record 20 "allocgen.dataset.loader" "Loading allocations from %s"
    (.ofCall [.text path.toText]) none

/-- The bytes of the line of a record. -/
def lineBytes? (world : World) (record : Record) (style : LineStyle) :
    Option (List UInt8) :=
  match record.line style world.logging.context with
  | .error _ => none
  | .ok line =>
      match Utf8.encode (line ++ "\n") with
      | .error _ => none
      | .ok bytes => some bytes

/-- The record about the loading of a path is written to a file. -/
structure Announces (world : World) (path : PathName) (identity : Nat) :
    Prop where
  valid : PathName.check path.toText = .ok ()
  enabled : world.logging.isEnabled 20
  written : ∃ style, Handler.file identity style ∈ world.logging.handlers ∧
    (world.lineBytes? (world.announcement path) style).isSome

theorem Announces.writesTo {world : World} {path : PathName} {identity : Nat}
    (announces : world.Announces path identity) :
    world.logging.WritesTo identity := by
  obtain ⟨style, attached, -⟩ := announces.written
  exact ⟨style, attached⟩

theorem exists_line_of_lineBytes? {world : World} {record : Record}
    {style : LineStyle} {bytes : List UInt8}
    (written : world.lineBytes? record style = some bytes) :
    ∃ line, record.line style world.logging.context = .ok line ∧
      Utf8.encode (line ++ "\n") = .ok bytes := by
  unfold lineBytes? at written
  split at written
  · cases written
  · next line spelled =>
      split at written
      · cases written
      · next encoded =>
          cases written
          exact ⟨line, spelled, encoded⟩

end World

theorem Utf8.encode_line_ne_nil {line : Text} {bytes : List UInt8}
    (encoded : Utf8.encode (line ++ "\n") = .ok bytes) : bytes ≠ [] := by
  unfold encode at encoded
  split at encoded
  · cases encoded
  · cases encoded
    intro isNil
    rw [List.filterMap_append, encodeChars, List.flatMap_append] at isNil
    have lineFeed := (List.append_eq_nil_iff.mp isNil).2
    revert lineFeed
    decide

namespace WatchedFile

variable {file : WatchedFile} {quiet loud condition : Prop}
  {world after : World}

/-- Something that never becomes the content of the file by additions is where
the file was. -/
def IsOverwrittenIn (file : WatchedFile) (world : World) : Prop :=
  ∃ identity bytes,
    world.files.node? file.place = some (.file identity bytes) ∧
    ∀ added, bytes ++ added ≠ file.content

/-- The file is overwritten under a condition, and otherwise it is left with
what records have added. -/
def Verdict (file : WatchedFile) (quiet loud condition : Prop)
    (world : World) : Prop :=
  (condition → file.IsOverwrittenIn world) ∧
    (¬ condition → file.IsLeftIn quiet loud world)

theorem IsOverwrittenIn.of_onlyRecords (only : World.OnlyRecords world after)
    (overwritten : file.IsOverwrittenIn world) :
    file.IsOverwrittenIn after := by
  obtain ⟨additions, additionsEq, -⟩ := only.files
  rw [IsOverwrittenIn, additionsEq]
  unfold IsOverwrittenIn at overwritten
  generalize world.files = tree at overwritten
  clear only additionsEq
  induction additions generalizing tree with
  | nil => exact overwritten
  | cons addition additions ih =>
      apply ih
      obtain ⟨identity, bytes, here, never⟩ := overwritten
      rw [FileTree.node?_append, here, Option.map_some, Node.append]
      split
      · refine ⟨identity, bytes ++ addition.2, rfl, fun added => ?_⟩
        rw [List.append_assoc]
        exact never _
      · exact ⟨identity, bytes, rfl, never⟩

theorem IsOverwrittenIn.node?_ne (overwritten : file.IsOverwrittenIn world)
    (other : Nat) :
    world.files.node? file.place ≠ some (.file other file.content) := by
  obtain ⟨identity, bytes, here, never⟩ := overwritten
  intro same
  rw [here] at same
  cases same
  exact never [] (List.append_nil _)

theorem Verdict.of_onlyRecords (only : World.OnlyRecords world after)
    (verdict : file.Verdict quiet loud condition world) :
    file.Verdict quiet loud condition after :=
  ⟨fun holds => (verdict.1 holds).of_onlyRecords only,
    fun fails => (verdict.2 fails).of_onlyRecords only⟩

/-- The file is there before a run.  Its loading is going to be announced in
it if it is a log file, and otherwise no handler writes to it. -/
def IsReadyIn (file : WatchedFile) (quiet loud : Prop) (world : World) :
    Prop :=
  file.IsHeldIf quiet world ∧
    (loud → world.Announces file.path file.identity)

/-- A log file is longer once its loading has been announced. -/
theorem IsThereIn.announced (there : file.IsThereIn world)
    (announces : world.Announces file.path file.identity) :
    ∃ added, added ≠ [] ∧
      (file.grownBy added).IsThereIn (Dataset.announced file.path world) := by
  obtain ⟨valid, enabled, style, attached, written⟩ := announces
  obtain ⟨bytes, isWritten⟩ := Option.isSome_iff_exists.mp written
  obtain ⟨line, spelled, encoded⟩ :=
    World.exists_line_of_lineBytes? isWritten
  obtain ⟨additions, additionsEq, isAdded⟩ := World.deliverAll_adds
    (fun _ member => member) attached spelled encoded
  have handlers : world.logging.handlers.isEmpty = false := by
    cases attachedAll : world.logging.handlers with
    | nil =>
        rw [attachedAll] at attached
        cases attached
    | cons handler handlers => rfl
  have filesEq : (Dataset.announced file.path world).files =
      world.files.appendAll additions := by
    rw [← additionsEq, Dataset.announced, World.log, World.emit, enabled,
      handlers]
    rfl
  refine ⟨_, FileTree.addedTo_ne_nil isAdded
    (Utf8.encode_line_ne_nil encoded), ?_, ?_, ?_⟩
  · rw [filesEq]
    exact FileTree.wellFormed_appendAll there.wellFormed additions
  · rw [filesEq, FileTree.workingDirectory_appendAll]
    exact there.workingDirectory
  · rw [filesEq]
    exact FileTree.find_appendAll there.found

/-- Loading reads the bytes of the file, which may have got longer by then. -/
theorem ensures_load :
    Ensures (file.IsReadyIn quiet loud) (Dataset.load file.path)
      (fun dataset world => file.IsLeftIn quiet loud world ∧
        ∃ added, Dataset.ofBytes (file.content ++ added) = .ok dataset)
      (fun _ => file.IsLeftIn quiet loud) := by
  rintro world ⟨⟨there, apart⟩, announces⟩ result after ends
  have left : file.IsLeftIn quiet loud after := by
    by_cases isLoud : loud
    · obtain ⟨added, isLonger, thereLater⟩ :=
        there.announced (announces isLoud)
      have writes := (announces isLoud).writesTo
      have leftLater : file.IsLeftIn quiet loud
          (Dataset.announced file.path world) :=
        ⟨added, thereLater, fun _ => isLonger,
          fun isQuiet => absurd writes (apart isQuiet)⟩
      have runs := Dataset.run_load (announces isLoud).valid there.found
        thereLater.found
      have only := Dataset.onlyRecords_loadContent file.path
        (file.grownBy added).content (Dataset.announced file.path world)
      rw [← runs, ends] at only
      exact leftLater.of_onlyRecords only
    · have only := Dataset.onlyRecords_load file.path world
      rw [ends] at only
      have leftBefore : file.IsLeftIn quiet loud world :=
        ⟨[], by rwa [grownBy_nil], fun yes => absurd yes isLoud,
          fun isQuiet => ⟨rfl, apart isQuiet⟩⟩
      exact leftBefore.of_onlyRecords only
  cases result with
  | ok dataset =>
      obtain ⟨added, holds, -⟩ := Dataset.ofBytes_of_load there.found ends
      exact ⟨left, added, holds⟩
  | error failure => exact left

/-- The text is the contract of a dataset that begins with the bytes of the
file. -/
def HasContract (file : WatchedFile) (template : Template) (text : Text) :
    Prop :=
  ∃ dataset added, renderContract template dataset = .ok text ∧
    Dataset.ofBytes (file.content ++ added) = .ok dataset

variable {configuration : Configuration}

theorem ensures_generate (isInput : configuration.input = file.path) :
    Ensures (file.IsReadyIn quiet loud) (configuration.generate .file [])
      (fun generation world => file.IsLeftIn quiet loud world ∧
        file.HasContract configuration.template generation.text)
      (fun _ => file.IsLeftIn quiet loud) := by
  have loads : Ensures (file.IsReadyIn quiet loud)
      (Source.file.load configuration.input) _ _ :=
    isInput ▸ ensures_load
  refine loads.bind fun dataset => ?_
  rintro world ⟨left, added, holds⟩ result after ends
  obtain ⟨next, only, taken⟩ := Action.run_takeRendering
    ((Generator.new configuration.template).generate [] dataset) world
  rw [← renderContract] at taken
  cases rendered : renderContract configuration.template dataset with
  | error fault =>
      rw [rendered] at taken
      rw [run_bind_of_error taken] at ends
      cases ends
      exact left.of_onlyRecords only
  | ok text =>
      rw [rendered] at taken
      rw [run_bind_of_ok taken] at ends
      cases ends
      exact ⟨left.of_onlyRecords only, dataset, added, rendered, holds⟩

/-- Writing the contract overwrites the file just if the output is the
file. -/
theorem ensures_replaceText {template : Template} {text : Text}
    {output : PathName} (isContract : file.HasContract template text)
    {files : FileTree}
    (sameDirectory : files.workingDirectory = file.workingDirectory) :
    Ensures (file.IsLeftIn quiet loud) (Action.replaceText output text)
      (fun _ => file.Verdict quiet loud
        ((files.absolute output).names = file.place))
      (fun _ => file.IsLeftIn quiet loud) := by
  intro world left result after ends
  have ⟨added, there, _⟩ := left
  rcases Action.replaceText_cases output text world there.wellFormed with
    ⟨failure, written, spares, runs⟩ |
      ⟨bytes, place, written, next, encoded, replaced, only, runs⟩
  · rw [runs] at ends
    cases ends
    exact left.withFiles spares.wellFormed spares.directories
      (spares.keeps file.place)
  · rw [runs] at ends
    cases ends
    obtain ⟨identity, found⟩ := replaced.found
    obtain ⟨-, -, -, -, here⟩ :=
      replaced.wellFormed.exists_leads_of_file found
    have placeEq : place = (files.absolute output).names := by
      rw [← there.absolute_eq sameDirectory]
      exact replaced.place_eq
    apply Verdict.of_onlyRecords only
    constructor
    · intro isPlace
      rw [isPlace] at placeEq
      refine ⟨identity, bytes, placeEq ▸ here, fun added same => ?_⟩
      obtain ⟨dataset, more, rendered, holds⟩ := isContract
      rw [← same, List.append_assoc] at holds
      exact Dataset.ofBytes_contract rendered encoded _ dataset holds
    · intro otherPlace
      have elsewhere : file.place ≠ place := by
        rw [placeEq]
        exact fun same => otherPlace same.symm
      exact left.withFiles replaced.wellFormed replaced.directories
        fun _ _ => (replaced.others _ elsewhere _ _).mpr

/-- A run overwrites the file that it reads just if it succeeds and this is
its output. -/
theorem ensures_run (isInput : configuration.input = file.path)
    {files : FileTree}
    (sameDirectory : files.workingDirectory = file.workingDirectory) :
    Ensures (file.IsReadyIn quiet loud) (configuration.run .file .file [])
      (fun _ => file.Verdict quiet loud
        ((files.absolute configuration.output).names = file.place))
      (fun _ => file.IsLeftIn quiet loud) := by
  refine (ensures_generate isInput).bind fun generation => ?_
  apply Ensures.given
  intro isContract
  have writes : Ensures (file.IsLeftIn quiet loud)
      (Sink.file.write configuration.output generation.text) _ _ :=
    ensures_replaceText isContract sameDirectory
  have logs : Ensures (file.Verdict quiet loud
        ((files.absolute configuration.output).names = file.place))
      (Action.log 20 "allocgen.pipeline"
        "Wrote %d allocations in %d categories to %s"
        [.int generation.total, .int generation.categories.length,
          .text configuration.output.toText])
      (fun _ => file.Verdict quiet loud
        ((files.absolute configuration.output).names = file.place))
      (fun _ => file.IsLeftIn quiet loud) := by
    refine .of_run_eq (Action.run_log _ _ _ _) fun world verdict => ?_
    exact verdict.of_onlyRecords (Action.onlyRecords_log _ _ _ _ world)
  exact writes.bind fun _ => logs.bind fun _ => .pure fun _ verdict =>
    verdict

end WatchedFile

end VestingContract
