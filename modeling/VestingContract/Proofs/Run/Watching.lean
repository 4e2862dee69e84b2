import VestingContract.Proofs.File.Changes
import VestingContract.Proofs.Run.Records

/-!
# Watching a file

A file is watched while other work is done.  Its path leads to it for as long
as directories are only added.  Records make it longer if a handler writes to
it, and leave it as it is otherwise.
-/

namespace VestingContract

open Stateful

namespace FileTree

variable {tree : FileTree}

theorem wellFormed_appendAll (wellFormed : tree.WellFormed)
    (additions : List (Nat × List UInt8)) :
    (tree.appendAll additions).WellFormed := by
  induction additions generalizing tree with
  | nil => exact wellFormed
  | cons addition additions ih => exact ih (wellFormed.append _ _)

theorem workingDirectory_appendAll (additions : List (Nat × List UInt8)) :
    (tree.appendAll additions).workingDirectory = tree.workingDirectory := by
  induction additions generalizing tree with
  | nil => rfl
  | cons addition additions ih => exact ih

end FileTree

/-- A file that a path leads to. -/
structure WatchedFile where
  path : PathName
  workingDirectory : List Text
  place : List Text
  identity : Nat
  content : List UInt8

namespace WatchedFile

/-- The file is where it was, with its content. -/
structure IsThereIn (file : WatchedFile) (world : World) : Prop where
  wellFormed : world.files.WellFormed
  workingDirectory : world.files.workingDirectory = file.workingDirectory
  found : world.files.find file.path =
    .ok (.present file.place (.file file.identity file.content))

/-- The file is there, and under a condition no handler writes to it. -/
def IsHeldIf (file : WatchedFile) (condition : Prop)
    (world : World) : Prop :=
  file.IsThereIn world ∧
    (condition → ¬ world.logging.WritesTo file.identity)

/-- The file with bytes added. -/
def grownBy (file : WatchedFile) (added : List UInt8) : WatchedFile :=
  { file with content := file.content ++ added }

/-- Records may have been added to the file: something if its loading was
announced in it, and nothing if no handler writes to it. -/
def IsLeftIn (file : WatchedFile) (quiet loud : Prop) (world : World) :
    Prop :=
  ∃ added, (file.grownBy added).IsThereIn world ∧
    (loud → added ≠ []) ∧
    (quiet → added = [] ∧ ¬ world.logging.WritesTo file.identity)

variable {file : WatchedFile} {quiet loud : Prop} {world after : World}

@[simp]
theorem grownBy_nil (file : WatchedFile) : file.grownBy [] = file := by
  rw [grownBy, List.append_nil]

@[simp]
theorem grownBy_grownBy (file : WatchedFile) (first second : List UInt8) :
    (file.grownBy first).grownBy second = file.grownBy (first ++ second) := by
  rw [grownBy, grownBy, grownBy, List.append_assoc]

theorem IsThereIn.node? (there : file.IsThereIn world) :
    world.files.node? file.place =
      some (.file file.identity file.content) := by
  obtain ⟨-, -, -, -, here⟩ := there.wellFormed.exists_leads_of_file there.found
  exact here

theorem IsThereIn.absolute_eq {other : FileTree} (there : file.IsThereIn world)
    (same : other.workingDirectory = file.workingDirectory)
    (path : PathName) : world.files.absolute path = other.absolute path :=
  FileTree.absolute_congr (there.workingDirectory.trans same.symm) path

theorem IsThereIn.withFiles (there : file.IsThereIn world) {files : FileTree}
    (wellFormed : files.WellFormed)
    (directories : world.files.KeepsDirectories files)
    (here : files.node? file.place =
      some (.file file.identity file.content)) :
    file.IsThereIn { world with files := files } := by
  obtain ⟨directory, name, leads, placeEq, -⟩ :=
    there.wellFormed.exists_leads_of_file there.found
  refine ⟨wellFormed, ?_, ?_⟩
  · exact directories.workingDirectory.trans there.workingDirectory
  · have found := (leads.of_keepsDirectories directories).find
    rw [placeEq] at here ⊢
    rw [found, FileTree.placeAt_of_some here]

theorem IsThereIn.withLogging (there : file.IsThereIn world)
    (state : LogState) : file.IsThereIn { world with logging := state } :=
  ⟨there.wellFormed, there.workingDirectory, there.found⟩

theorem IsThereIn.print (there : file.IsThereIn world) (text : Text) :
    file.IsThereIn (world.print text) :=
  ⟨there.wellFormed, there.workingDirectory, there.found⟩

/-- Records may add to the file, if a handler writes to it. -/
theorem IsThereIn.of_onlyRecords (only : World.OnlyRecords world after)
    (there : file.IsThereIn world) :
    ∃ added, (file.grownBy added).IsThereIn after ∧
      (¬ world.logging.WritesTo file.identity → added = []) := by
  obtain ⟨added, found, isNone⟩ := only.find there.found
  obtain ⟨additions, additionsEq, -⟩ := only.files
  refine ⟨added, ⟨?_, ?_, found⟩, isNone⟩
  · rw [additionsEq]
    exact FileTree.wellFormed_appendAll there.wellFormed additions
  · rw [additionsEq, FileTree.workingDirectory_appendAll]
    exact there.workingDirectory

theorem IsHeldIf.of_onlyRecords (only : World.OnlyRecords world after)
    (held : file.IsHeldIf True world) : file.IsHeldIf True after := by
  obtain ⟨there, apart⟩ := held
  obtain ⟨added, thereAfter, isNone⟩ := there.of_onlyRecords only
  rw [isNone (apart trivial), grownBy_nil] at thereAfter
  refine ⟨thereAfter, ?_⟩
  rw [only.logging]
  exact apart

/-- What nothing is added to, or has got longer, stays so. -/
theorem IsLeftIn.of_onlyRecords (only : World.OnlyRecords world after)
    (left : file.IsLeftIn quiet loud world) :
    file.IsLeftIn quiet loud after := by
  obtain ⟨added, there, isLonger, isSame⟩ := left
  obtain ⟨more, thereAfter, isNone⟩ := there.of_onlyRecords only
  rw [grownBy_grownBy] at thereAfter
  refine ⟨added ++ more, thereAfter, fun isLoud => ?_, fun isQuiet => ?_⟩
  · exact List.append_ne_nil_of_left_ne_nil (isLonger isLoud) more
  · obtain ⟨rfl, apart⟩ := isSame isQuiet
    rw [only.logging]
    exact ⟨isNone apart, apart⟩

theorem preserves_print (text : Text) :
    Preserves (file.IsLeftIn quiet loud) (Action.print text) := by
  rw [Action.print]
  split
  · exact .throw fun _ left => left
  · apply Ensures.modify
    rintro world ⟨added, there, isLonger, isSame⟩
    exact ⟨added, there.print text, isLonger, isSame⟩

theorem preserves_of_onlyRecords {α : Type} {work : Action α}
    (only : Relates World.OnlyRecords work) :
    Preserves (file.IsLeftIn quiet loud) work :=
  only.preserves fun _ _ => IsLeftIn.of_onlyRecords

/-- A change of the tree that keeps the directories and a file at this
place. -/
theorem IsLeftIn.withFiles (left : file.IsLeftIn quiet loud world)
    {files : FileTree} (wellFormed : files.WellFormed)
    (directories : world.files.KeepsDirectories files)
    (keeps : ∀ identity content,
      world.files.node? file.place = some (.file identity content) →
        files.node? file.place = some (.file identity content)) :
    file.IsLeftIn quiet loud { world with files := files } := by
  obtain ⟨added, there, isLonger, isSame⟩ := left
  refine ⟨added, there.withFiles wellFormed directories ?_, isLonger, isSame⟩
  exact keeps _ _ there.node?

end WatchedFile

end VestingContract
