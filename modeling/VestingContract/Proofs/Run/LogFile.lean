import VestingContract.Proofs.File.Growing
import VestingContract.Proofs.Run.Watching
import VestingContract.Run.LogSetup

/-!
# Setting up logging beside a file

Setting up logging makes directories and at most one file, which it opens for
additions.  A file that was there before keeps its content, and no handler
writes to it unless the log file is the file itself.
-/

namespace VestingContract

open Stateful

namespace FileTree

variable {tree : FileTree}

theorem Avoids.appendAll {path : PathName} {identity : Nat}
    (avoids : tree.Avoids path identity)
    (additions : List (Nat × List UInt8)) :
    (tree.appendAll additions).Avoids path identity := by
  induction additions generalizing tree with
  | nil => exact avoids
  | cons addition additions ih => exact ih (avoids.append _ _)

/-- Directories that are added lead an absolute path to no file that was there
before. -/
theorem Avoids.of_onlyDirectories {after : FileTree} {path : PathName}
    {identity : Nat} (wellFormed : tree.WellFormed)
    (wellFormedAfter : after.WellFormed)
    (only : tree.OnlyDirectories after)
    (avoids : tree.Avoids (tree.absolute path) identity) :
    after.Avoids (tree.absolute path) identity := by
  intro place content found
  obtain ⟨-, -, -, -, here⟩ := wellFormedAfter.exists_leads_of_file found
  have before := only.node?_file_iff.mp here
  exact avoids place content (wellFormed.find_of_node?
    only.workingDirectory (not_mem_absolute tree path) found before)

end FileTree

/-- Opening a log file makes directories, and then it opens the file behind
the path in the tree with these directories, or it fails. -/
theorem run_openLogFile_cases {path : PathName} {world after : World}
    {result : Except Failure Nat} (wellFormed : world.files.WellFormed)
    (ends : (Action.openLogFile path).run world = (result, after)) :
    ∃ base, base.WellFormed ∧ world.files.OnlyDirectories base ∧
      ((∃ failure, result = .error failure ∧
          after = { world with files := base }) ∨
        ∃ identity files, result = .ok identity ∧
          base.openToAppend (base.absolute path) = .ok (identity, files) ∧
          after = { world with files := files }) := by
  obtain ⟨wellFormedBase, only⟩ :=
    FileAction.onlyDirectories_ensureDirectory path.parent .sound world.files
      wellFormed
  have makes := Action.run_onFiles
    (FileAction.ensureDirectory path.parent) world
  rcases ensured : (FileAction.ensureDirectory path.parent).run world.files
    with ⟨ensureResult, base⟩
  rw [ensured] at wellFormedBase only makes
  refine ⟨base, wellFormedBase, only, ?_⟩
  cases ensureResult with
  | error failure =>
      have fails : (Action.openLogFile path).run world = _ :=
        run_bind_of_error makes _
      rw [fails] at ends
      cases ends
      exact .inl ⟨_, rfl, rfl⟩
  | ok made =>
      have opens := FileAction.run_ofUpdate (base.absolute path) base
        (·.openToAppend (base.absolute path))
      rw [Action.openLogFile, run_bind_of_ok makes,
        run_bind_of_ok (run_get _), Action.run_onFiles,
        FileAction.openToAppend] at ends
      cases looked : FileAction.lookedUp (base.absolute path)
          (base.openToAppend (base.absolute path)) with
      | error failure =>
          rw [looked] at opens
          simp only [opens] at ends
          cases ends
          exact .inl ⟨_, rfl, rfl⟩
      | ok update =>
          obtain ⟨identity, files⟩ := update
          rw [looked] at opens
          simp only [opens] at ends
          cases ends
          exact .inr ⟨identity, files, rfl,
            FileAction.of_lookedUp_eq_ok _ looked, rfl⟩

/-- Setting up logging takes handlers away, opens the log file, attaches the
new handlers and adds to the context.  What one stage leaves is where the next
one begins. -/
theorem ensures_setUpLogging_of_stages {levelText : Text}
    {logFile : Option Text} {json : Bool} {fields : List (Value × Value)}
    {before removed ready after : World → Prop}
    {opened : List Handler → World → Prop} {fails : Failure → World → Prop}
    (refuses : ∀ world, before world → fails (.unknownLevel levelText) world)
    (removes : Ensures before (Action.onLogging LogState.withoutInstalled)
      (fun _ => removed) fails)
    (opens : Ensures removed (Action.fileHandler logFile json) opened fails)
    (installs : ∀ level current handlers,
      levelOfName? levelText.toUpper = some level → removed current →
        Ensures (opened handlers)
          (Action.onLogging fun state =>
            state.install level (.console current.terminal :: handlers))
          (fun _ => ready) fails)
    (pushes : Ensures ready (Action.pushContext fields) (fun _ => after)
      fails)
    (captures : Ensures after
      (Action.onLogging fun state => { state with capturesWarnings := true })
      (fun _ => after) fails) :
    Ensures before (Action.setUpLogging levelText logFile json fields)
      (fun _ => after) fails := by
  unfold Action.setUpLogging
  split
  · exact .throw refuses
  · next level known =>
      have looks : Ensures removed (get : Action World)
          (fun current world => removed world ∧ removed current) fails :=
        .get fun _ holds => ⟨holds, holds⟩
      refine removes.bind fun _ => looks.bind fun current => ?_
      refine Ensures.given fun isRemoved => opens.bind fun handlers => ?_
      refine (installs level current handlers known isRemoved).bind fun _ => ?_
      exact pushes.bind fun _ => captures.bind fun _ =>
        .pure fun _ holds => holds

section LogFiles

/-- A log file that is not the watched file. -/
def WatchedFile.IsApartFrom (file : WatchedFile) (logFile : Option Text)
    (tree : FileTree) : Prop :=
  ∀ name, logFile = some name → name ≠ [] →
    tree.Avoids (tree.absolute (PathName.ofText name)) file.identity

/-- The file is there, and under a condition neither the handlers nor those
of a log file write to it. -/
def WatchedFile.IsSafeIf (file : WatchedFile) (condition : Prop)
    (logFile : Option Text) (world : World) : Prop :=
  file.IsHeldIf condition world ∧
    (condition → file.IsApartFrom logFile world.files)

variable (file : WatchedFile) (condition : Prop)

/-- A change of logging that leaves the handlers or takes some away. -/
theorem preserves_onLogging {change : LogState → LogState}
    (fewer : ∀ state identity,
      (change state).WritesTo identity → state.WritesTo identity) :
    Preserves (file.IsHeldIf condition) (Action.onLogging change) := by
  apply Ensures.modify
  rintro world ⟨there, apart⟩
  refine ⟨there.withLogging _, fun holds writes => ?_⟩
  exact apart holds (fewer _ _ writes)

/-- Opening a log file keeps a file that the log file is not. -/
theorem ensures_openLogFile (path : PathName) :
    Ensures
      (fun world => file.IsHeldIf condition world ∧
        (condition → world.files.Avoids (world.files.absolute path)
          file.identity))
      (Action.openLogFile path)
      (fun identity world => file.IsHeldIf condition world ∧
        (condition → identity ≠ file.identity))
      (fun _ => file.IsHeldIf condition) := by
  rintro world ⟨⟨there, apart⟩, avoids⟩ result after ends
  obtain ⟨base, wellFormed, only, cases⟩ :=
    run_openLogFile_cases there.wellFormed ends
  have thereBase := there.withFiles wellFormed only.keepsDirectories
    (only.node?_file_iff.mpr there.node?)
  rcases cases with ⟨failure, rfl, rfl⟩ | ⟨identity, files, rfl, opened, rfl⟩
  · exact ⟨thereBase, apart⟩
  · rcases FileTree.openToAppend_cases wellFormed opened with
      ⟨rfl, place, content, found⟩ |
        ⟨directory, name, leads, absent, rfl, rfl⟩
    · refine ⟨⟨thereBase, apart⟩, ?_⟩
      rintro holds rfl
      have avoidsBase := (avoids holds).of_onlyDirectories there.wellFormed
        wellFormed only
      rw [only.keepsDirectories.absolute_eq] at found
      exact avoidsBase place content found
    · have here := thereBase.node?
      have other : file.place ≠ directory ++ [name] := by
        intro same
        change base.node? file.place = _ at here
        rw [same, absent] at here
        cases here
      refine ⟨⟨thereBase.withFiles
        (FileTree.wellFormed_withFile wellFormed leads absent [])
        (FileTree.keepsDirectories_withFile wellFormed absent []) ?_, apart⟩,
        fun _ => ?_⟩
      · rw [FileTree.node?_withFile wellFormed (by simp), if_neg other]
        exact here
      · have known := wellFormed.fresh _ _ _ here
        omega

/-- The handler of a log file does not write to a file that the log file is
not. -/
theorem ensures_fileHandler (logFile : Option Text) (json : Bool) :
    Ensures (file.IsSafeIf condition logFile)
      (Action.fileHandler logFile json)
      (fun handlers world => file.IsHeldIf condition world ∧
        (condition → ∀ style, Handler.file file.identity style ∉ handlers))
      (fun _ => file.IsHeldIf condition) := by
  have noHandler : Ensures (file.IsSafeIf condition logFile)
      (pure [] : Action (List Handler))
      (fun handlers world => file.IsHeldIf condition world ∧
        (condition → ∀ style, Handler.file file.identity style ∉ handlers))
      (fun _ => file.IsHeldIf condition) :=
    .pure fun world safe => ⟨safe.1, fun _ _ => List.not_mem_nil⟩
  cases logFile with
  | none => exact noHandler
  | some name =>
      cases name with
      | nil => exact noHandler
      | cons first rest =>
          have opens := ensures_openLogFile file condition
            (PathName.ofText (first :: rest))
          refine Ensures.bind (fun world safe => opens world
            ⟨safe.1, fun holds => safe.2 holds _ rfl (by simp)⟩)
            fun identity => ?_
          apply Ensures.pure
          rintro world ⟨held, different⟩
          refine ⟨held, fun holds style member => ?_⟩
          obtain ⟨same, -⟩ : file.identity = identity ∧ _ := by
            simpa using member
          exact different holds same.symm

theorem preserves_install (level : Int) {handlers : List Handler}
    (others : condition →
      ∀ style, Handler.file file.identity style ∉ handlers) :
    Preserves (file.IsHeldIf condition)
      (Action.onLogging fun state => state.install level handlers) := by
  apply Ensures.modify
  rintro world ⟨there, apart⟩
  refine ⟨there.withLogging _, ?_⟩
  rintro holds ⟨style, attached⟩
  rcases List.mem_append.mp attached with before | added
  · exact apart holds ⟨style, before⟩
  · exact others holds style added

theorem preserves_pushContext (fields : List (Value × Value)) :
    Preserves (file.IsHeldIf condition) (Action.pushContext fields) := by
  unfold Action.pushContext
  split
  · exact .throw fun _ held => held
  · exact preserves_onLogging file condition fun _ _ writes => writes

/-- Setting up logging keeps every file.  No handler writes to it afterwards
if the log file is another one. -/
theorem ensures_setUpLogging (levelText : Text) (logFile : Option Text)
    (json : Bool) (fields : List (Value × Value)) :
    Ensures (file.IsSafeIf condition logFile)
      (Action.setUpLogging levelText logFile json fields)
      (fun _ => file.IsHeldIf condition)
      (fun _ => file.IsHeldIf condition) := by
  have removes : Ensures (file.IsSafeIf condition logFile)
      (Action.onLogging LogState.withoutInstalled)
      (fun _ => file.IsSafeIf condition logFile)
      (fun _ => file.IsHeldIf condition) := by
    apply Ensures.modify
    rintro world ⟨⟨there, apart⟩, others⟩
    refine ⟨⟨there.withLogging _, ?_⟩, others⟩
    rintro holds ⟨style, attached⟩
    exact apart holds ⟨style, List.mem_of_mem_filter attached⟩
  refine ensures_setUpLogging_of_stages (fun _ safe => safe.1) removes
    (ensures_fileHandler file condition logFile json) ?_
    (preserves_pushContext file condition fields)
    (preserves_onLogging file condition fun _ _ writes => writes)
  rintro level current handlers - -
  refine Ensures.given fun others => ?_
  refine preserves_install file condition level fun holds style member => ?_
  rcases List.mem_cons.mp member with isConsole | added
  · cases isConsole
  · exact others holds style added

end LogFiles

/-- The world without the handlers of an earlier setup. -/
def World.withoutInstalled (world : World) : World :=
  { world with logging := world.logging.withoutInstalled }

section Outcomes

variable {levelText : Text} {fields : List (Value × Value)}

theorem run_fileHandler_cases (logFile : Option Text) (json : Bool)
    (world : World) :
    (∃ name failure after, logFile = some name ∧ name ≠ [] ∧
      (Action.openLogFile (PathName.ofText name)).run world =
        (.error failure, after) ∧
      (Action.fileHandler logFile json).run world =
        (.error failure, after)) ∨
    (∀ name failure after, logFile = some name → name ≠ [] →
      (Action.openLogFile (PathName.ofText name)).run world ≠
        (.error failure, after)) ∧
      ∃ handlers after, (Action.fileHandler logFile json).run world =
        (.ok handlers, after) := by
  cases logFile with
  | none =>
      refine .inr ⟨?_, [], world, rfl⟩
      rintro _ _ _ ⟨⟩
  | some name =>
      cases name with
      | nil =>
          refine .inr ⟨?_, [], world, rfl⟩
          rintro _ _ _ ⟨⟩ nonempty
          exact absurd rfl nonempty
      | cons first rest =>
          rcases opens : (Action.openLogFile
            (PathName.ofText (first :: rest))).run world with ⟨result, after⟩
          cases result with
          | error failure =>
              exact .inl ⟨_, failure, after, rfl, by simp, opens,
                run_bind_of_error opens _⟩
          | ok identity =>
              refine .inr ⟨?_, _, after, run_bind_of_ok opens _⟩
              rintro _ failure other ⟨⟩ - fails
              rw [opens] at fails
              cases fails

/-- Setting up logging with a level that is known fails just if the log file
cannot be opened. -/
theorem run_setUpLogging_cases
    (known : ∃ level, levelOfName? levelText.toUpper = some level)
    (named : ∃ context, LogContext.ofPairs? fields = some context)
    (logFile : Option Text) (json : Bool) (world : World) :
    (∃ name failure after, logFile = some name ∧ name ≠ [] ∧
      (Action.openLogFile (PathName.ofText name)).run
        world.withoutInstalled = (.error failure, after) ∧
      (Action.setUpLogging levelText logFile json fields).run world =
        (.error failure, after)) ∨
    (∀ name failure after, logFile = some name → name ≠ [] →
      (Action.openLogFile (PathName.ofText name)).run
        world.withoutInstalled ≠ (.error failure, after)) ∧
      ∃ handlers after,
        (Action.setUpLogging levelText logFile json fields).run world =
          (.ok handlers, after) := by
  obtain ⟨level, levelEq⟩ := known
  obtain ⟨context, contextEq⟩ := named
  have removes : (Action.onLogging LogState.withoutInstalled).run world =
      (.ok ⟨⟩, world.withoutInstalled) := rfl
  have looks : (get : Action World).run world.withoutInstalled =
      (.ok world.withoutInstalled, world.withoutInstalled) := rfl
  simp only [Action.setUpLogging, levelEq]
  rw [run_bind_of_ok removes, run_bind_of_ok looks]
  rcases run_fileHandler_cases logFile json world.withoutInstalled with
    ⟨name, failure, after, nameEq, nonempty, fails, handler⟩ |
      ⟨never, handlers, after, handler⟩
  · exact .inl ⟨name, failure, after, nameEq, nonempty, fails,
      run_bind_of_error handler _⟩
  · refine .inr ⟨never, ?_⟩
    rw [run_bind_of_ok handler, Action.pushContext, contextEq]
    exact ⟨_, _, rfl⟩

end Outcomes

end VestingContract
