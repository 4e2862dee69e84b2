import VestingContract.Proofs.Run.LogFile
import VestingContract.Proofs.Run.Pipeline

/-!
# Files beside the log files

Records and the setup of logging change the log files, of which one may be
new, and no other file.
-/

namespace VestingContract

open Stateful

namespace FileTree

variable {tree after : FileTree} {isLog : Nat → Prop}

theorem SameFilesBut.appendAll (same : tree.SameFilesBut isLog after)
    {additions : List (Nat × List UInt8)}
    (known : ∀ addition ∈ additions, isLog addition.1) :
    tree.SameFilesBut isLog (after.appendAll additions) := by
  induction additions generalizing after with
  | nil => exact same
  | cons addition additions ih =>
      obtain ⟨first, others⟩ := List.forall_mem_cons.mp known
      exact ih (same.append first addition.2) others

/-- A file that is opened for additions is the only one that may be new. -/
theorem sameFilesBut_of_openToAppend {path : PathName} {identity : Nat}
    (wellFormed : tree.WellFormed)
    (opened : tree.openToAppend path = .ok (identity, after)) :
    tree.SameFilesBut (· = identity) after := by
  rcases openToAppend_cases wellFormed opened with
    ⟨rfl, place, content, found⟩ |
      ⟨directory, name, leads, absent, rfl, rfl⟩
  · obtain ⟨-, -, -, -, here⟩ := wellFormed.exists_leads_of_file found
    apply SameFilesBut.refl wellFormed
    rintro _ rfl
    exact wellFormed.fresh _ _ _ here
  · refine ⟨wellFormed_withFile wellFormed leads absent [],
      keepsDirectories_withFile wellFormed absent [],
      Nat.le_succ tree.nextIdentity, ?_, ?_⟩
    · rintro _ rfl
      exact Nat.lt_succ_self tree.nextIdentity
    · intro other owner content apart
      rw [node?_withFile wellFormed (by simp)]
      split
      · next same =>
          rw [same, absent]
          simp [Ne.symm apart]
      · exact Iff.rfl

end FileTree

namespace World

/-- No file has changed since an earlier world, log files apart. -/
def KeepsFiles (world after : World) : Prop :=
  world.files.SameFilesBut after.logging.WritesTo after.files

/-- Without handlers, no file has changed since an earlier world. -/
def KeepsAllFiles (world after : World) : Prop :=
  world.files.SameFilesBut (fun _ => False) after.files ∧
    after.logging.handlers = []

variable {world middle after : World}

theorem KeepsAllFiles.refl (wellFormed : world.files.WellFormed)
    (noHandlers : world.logging.handlers = []) :
    KeepsAllFiles world world :=
  ⟨.refl wellFormed fun _ isLog => isLog.elim, noHandlers⟩

theorem not_writesTo_of_nil {state : LogState}
    (noHandlers : state.handlers = []) (identity : Nat) :
    ¬ state.WritesTo identity := by
  rintro ⟨style, attached⟩
  rw [noHandlers] at attached
  cases attached

theorem KeepsAllFiles.keepsFiles (kept : KeepsAllFiles world after) :
    KeepsFiles world after := by
  have none : after.logging.WritesTo = fun _ => False :=
    funext fun identity => eq_false (not_writesTo_of_nil kept.2 identity)
  rw [KeepsFiles, none]
  exact kept.1

theorem KeepsFiles.of_onlyRecords (only : OnlyRecords middle after)
    (kept : KeepsFiles world middle) : KeepsFiles world after := by
  obtain ⟨additions, additionsEq, writes⟩ := only.files
  rw [KeepsFiles, additionsEq, only.logging]
  exact kept.appendAll writes

theorem KeepsAllFiles.of_onlyRecords (only : OnlyRecords middle after)
    (kept : KeepsAllFiles world middle) : KeepsAllFiles world after := by
  obtain ⟨same, noHandlers⟩ := kept
  have filesEq := only.files_eq (not_writesTo_of_nil noHandlers)
  exact ⟨by rwa [filesEq], by rwa [only.logging]⟩

theorem KeepsFiles.withFiles (kept : KeepsFiles world middle)
    {files : FileTree}
    (same : middle.files.SameFilesBut (fun _ => False) files) :
    KeepsFiles world { middle with files := files } :=
  FileTree.SameFilesBut.trans kept same fun _ => by simp

end World

section LogFiles

variable (world : World)

/-- A log file that is opened is the only one that may be new. -/
theorem ensures_openLogFile_keeps (path : PathName) :
    Ensures (World.KeepsAllFiles world) (Action.openLogFile path)
      (fun identity after => world.files.SameFilesBut (· = identity)
        after.files ∧ after.logging.handlers = [])
      (fun _ => World.KeepsAllFiles world) := by
  rintro before ⟨same, none⟩ result after ends
  obtain ⟨base, wellFormed, only, cases⟩ :=
    run_openLogFile_cases same.wellFormed ends
  have kept : world.files.SameFilesBut (fun _ => False) base :=
    same.trans (.of_onlyDirectories wellFormed only) fun _ => by simp
  rcases cases with ⟨failure, rfl, rfl⟩ | ⟨identity, files, rfl, opened, rfl⟩
  · exact ⟨kept, none⟩
  · have openedFile :=
      FileTree.sameFilesBut_of_openToAppend wellFormed opened
    exact ⟨kept.trans openedFile fun _ => by simp, none⟩

theorem ensures_fileHandler_keeps (logFile : Option Text) (json : Bool) :
    Ensures (World.KeepsAllFiles world) (Action.fileHandler logFile json)
      (fun handlers after => world.files.SameFilesBut
        (fun identity => ∃ style, Handler.file identity style ∈ handlers)
        after.files ∧ after.logging.handlers = [])
      (fun _ => World.KeepsAllFiles world) := by
  have noHandler : Ensures (World.KeepsAllFiles world)
      (pure [] : Action (List Handler))
      (fun handlers after => world.files.SameFilesBut
        (fun identity => ∃ style, Handler.file identity style ∈ handlers)
        after.files ∧ after.logging.handlers = [])
      (fun _ => World.KeepsAllFiles world) :=
    .pure fun after kept => ⟨by simpa using kept.1, kept.2⟩
  cases logFile with
  | none => exact noHandler
  | some name =>
      cases name with
      | nil => exact noHandler
      | cons first rest =>
          refine (ensures_openLogFile_keeps world
            (PathName.ofText (first :: rest))).bind fun identity => ?_
          refine .pure fun after kept => ⟨?_, kept.2⟩
          simpa using kept.1

theorem preserves_onLogging_keeps {change : LogState → LogState}
    (same : ∀ state, (change state).handlers = state.handlers) :
    Preserves (World.KeepsFiles world) (Action.onLogging change) := by
  apply Ensures.modify
  intro before kept
  rw [World.KeepsFiles]
  have writes : (change before.logging).WritesTo =
      before.logging.WritesTo := by
    funext identity
    rw [LogState.WritesTo, LogState.WritesTo, same]
  exact writes ▸ kept

theorem ensures_install_keeps (level : Int) (colored : Bool)
    (handlers : List Handler) :
    Ensures (fun before => world.files.SameFilesBut
        (fun identity => ∃ style, Handler.file identity style ∈ handlers)
        before.files ∧ before.logging.handlers = [])
      (Action.onLogging fun state =>
        state.install level (.console colored :: handlers))
      (fun _ => World.KeepsFiles world)
      (fun _ => World.KeepsFiles world) := by
  apply Ensures.modify
  rintro before ⟨same, none⟩
  have writes : (before.logging.install level
      (.console colored :: handlers)).WritesTo =
        fun identity => ∃ style, Handler.file identity style ∈ handlers := by
    funext identity
    simp [LogState.WritesTo, LogState.install, none]
  rw [World.KeepsFiles]
  exact writes ▸ same

/-- Setting up logging changes no file.  The log file may be new. -/
theorem ensures_setUpLogging_keeps (levelText : Text) (logFile : Option Text)
    (json : Bool) (fields : List (Value × Value)) :
    Ensures (World.KeepsAllFiles world)
      (Action.setUpLogging levelText logFile json fields)
      (fun _ => World.KeepsFiles world)
      (fun _ => World.KeepsFiles world) := by
  have removes : Ensures (World.KeepsAllFiles world)
      (Action.onLogging LogState.withoutInstalled)
      (fun _ => World.KeepsAllFiles world)
      (fun _ => World.KeepsFiles world) :=
    .modify fun before kept => ⟨kept.1, by
      simp [LogState.withoutInstalled, kept.2]⟩
  have opens := (ensures_fileHandler_keeps world logFile json).imp
    (fun _ _ kept => kept) (fun _ _ kept => kept.keepsFiles)
  have pushes : Preserves (World.KeepsFiles world)
      (Action.pushContext fields) := by
    unfold Action.pushContext
    split
    · exact .throw fun _ kept => kept
    · exact preserves_onLogging_keeps world fun _ => rfl
  exact ensures_setUpLogging_of_stages (fun _ kept => kept.keepsFiles)
    removes opens
    (fun level current handlers _ _ =>
      ensures_install_keeps world level current.terminal handlers)
    pushes (preserves_onLogging_keeps world fun _ => rfl)

end LogFiles

section Output

/-- Nothing has been printed to the output stream. -/
def World.PrintsNothing (world after : World) : Prop :=
  after.output = world.output

theorem World.PrintsNothing.trans ⦃first second third : World⦄
    (before : PrintsNothing first second)
    (after : PrintsNothing second third) : PrintsNothing first third :=
  Eq.trans after before

theorem printsNothing_onFiles {α : Type} (work : FileAction α) :
    Relates World.PrintsNothing (Action.onFiles work) := by
  intro world
  rw [Action.run_onFiles]
  rfl

theorem printsNothing_fileHandler (logFile : Option Text) (json : Bool) :
    Relates World.PrintsNothing (Action.fileHandler logFile json) := by
  cases logFile with
  | none => exact fun _ => rfl
  | some name =>
      cases name with
      | nil => exact fun _ => rfl
      | cons first rest =>
          refine .bind World.PrintsNothing.trans ?_ fun _ _ => rfl
          refine .bind World.PrintsNothing.trans (printsNothing_onFiles _)
            fun _ => ?_
          refine .bind World.PrintsNothing.trans ?_ fun _ =>
            printsNothing_onFiles _
          exact fun _ => rfl

theorem printsNothing_setUpLogging (levelText : Text) (logFile : Option Text)
    (json : Bool) (fields : List (Value × Value)) :
    Relates World.PrintsNothing
      (Action.setUpLogging levelText logFile json fields) := by
  have changes : ∀ change : LogState → LogState,
      Relates World.PrintsNothing (Action.onLogging change) :=
    fun _ _ => rfl
  unfold Action.setUpLogging
  split
  · exact fun _ => rfl
  · refine .bind World.PrintsNothing.trans (changes _) fun _ => ?_
    refine .bind World.PrintsNothing.trans ?_ fun _ => ?_
    · exact fun _ => rfl
    · refine .bind World.PrintsNothing.trans
        (printsNothing_fileHandler logFile json) fun _ => ?_
      refine .bind World.PrintsNothing.trans (changes _) fun _ => ?_
      refine .bind World.PrintsNothing.trans ?_ fun _ => ?_
      · unfold Action.pushContext
        split
        · exact fun _ => rfl
        · exact changes _
      · exact .bind World.PrintsNothing.trans (changes _) fun _ _ => rfl

end Output

end VestingContract
