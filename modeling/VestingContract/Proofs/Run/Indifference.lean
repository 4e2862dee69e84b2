import VestingContract.Proofs.File.Alike
import VestingContract.Proofs.Run.LogFile
import VestingContract.Proofs.Run.Pipeline

/-!
# Runs do not depend on logging

Two worlds are alike but for their logging: the files differ in the contents
of log files only, and both have printed the same.  Records, the setup of
logging and the stages of a run end in the same way in both, as long as no log
file is read.
-/

namespace VestingContract

open Stateful

theorem FileTree.AlikeBut.appendAll_left {isLog : Nat → Prop}
    {tree other : FileTree} (alike : tree.AlikeBut isLog other)
    {additions : List (Nat × List UInt8)}
    (known : ∀ addition ∈ additions, isLog addition.1) :
    (tree.appendAll additions).AlikeBut isLog other := by
  induction additions generalizing tree with
  | nil => exact alike
  | cons addition additions ih =>
      obtain ⟨first, others⟩ := List.forall_mem_cons.mp known
      exact ih (alike.append_left first addition.2) others

namespace World

/-- A file that a handler writes to, or that has been a log file before. -/
def IsLog (old : Nat → Prop) (world : World) (identity : Nat) : Prop :=
  old identity ∨ world.logging.WritesTo identity

/-- Two worlds are alike but for their logging. -/
structure AlikeBut (old : Nat → Prop) (world other : World) : Prop where
  files : world.files.AlikeBut (world.IsLog old) other.files
  output : other.output = world.output
  terminal : other.terminal = world.terminal
  shipped : other.shipped = world.shipped
  platform : other.platform = world.platform
  otherWrites : ∀ identity, other.logging.WritesTo identity →
    world.IsLog old identity

/-- A path leads to no log file. -/
def ReadsNoLog (old : Nat → Prop) (path : PathName) (world : World) : Prop :=
  ∀ identity, world.IsLog old identity → world.files.Avoids path identity

/-- The handlers write to old log files only. -/
def WritesOldOnly (old : Nat → Prop) (world : World) : Prop :=
  ∀ identity, world.logging.WritesTo identity → old identity

variable {old : Nat → Prop} {world other after otherAfter : World}

theorem isLog_congr (same : after.logging = world.logging) :
    after.IsLog old = world.IsLog old := by
  funext identity
  rw [IsLog, IsLog, same]

/-- Records keep worlds alike, whatever is written by the handlers of the one
and of the other. -/
theorem AlikeBut.of_onlyRecords (alike : world.AlikeBut old other)
    (only : OnlyRecords world after)
    (onlyOther : OnlyRecords other otherAfter) :
    after.AlikeBut old otherAfter := by
  obtain ⟨additions, filesEq, writes⟩ := only.files
  obtain ⟨others, otherFilesEq, othersWrite⟩ := onlyOther.files
  have sameLogs : after.IsLog old = world.IsLog old :=
    isLog_congr only.logging
  refine ⟨?_, ?_, ?_, ?_, ?_, ?_⟩
  · rw [sameLogs, filesEq, otherFilesEq]
    have grown := alike.files.appendAll_left fun addition member =>
      .inr (writes addition member)
    exact (grown.symm.appendAll_left fun addition member =>
      alike.otherWrites _ (othersWrite addition member)).symm
  · rw [onlyOther.output, only.output, alike.output]
  · rw [onlyOther.terminal, only.terminal, alike.terminal]
  · rw [onlyOther.shipped, only.shipped, alike.shipped]
  · rw [onlyOther.platform, only.platform, alike.platform]
  · rw [sameLogs, onlyOther.logging]
    exact alike.otherWrites

theorem ReadsNoLog.of_onlyRecords {path : PathName}
    (only : OnlyRecords world after) (noLog : world.ReadsNoLog old path) :
    after.ReadsNoLog old path := by
  obtain ⟨additions, filesEq, -⟩ := only.files
  intro identity isLog
  rw [isLog_congr only.logging] at isLog
  rw [filesEq]
  exact (noLog identity isLog).appendAll additions

end World

section Works

variable {old : Nat → Prop} {α : Type}

theorem indifferent_log (level : Int) (logger message : Text)
    (arguments : List Value) :
    Indifferent (World.AlikeBut old)
      (Action.log level logger message arguments) :=
  .modify fun world other alike => alike.of_onlyRecords
    (Action.onlyRecords_log level logger message arguments world)
    (Action.onlyRecords_log level logger message arguments other)

theorem preserves_readsNoLog {work : Action α}
    (only : Relates World.OnlyRecords work) (path : PathName) :
    Preserves (World.ReadsNoLog old path) work :=
  only.preserves fun _ _ => World.ReadsNoLog.of_onlyRecords

/-- Work on files that is indifferent to the contents of log files is so in a
world. -/
theorem agrees_onFiles {work : FileAction α}
    (guard : (Nat → Prop) → FileTree → Prop)
    (agrees : ∀ isLog, Agrees
      (fun tree other => tree.AlikeBut isLog other ∧ guard isLog tree) work
      (fun _ => FileTree.AlikeBut isLog) (FileTree.AlikeBut isLog)) :
    Agrees (fun world other => world.AlikeBut old other ∧
        guard (world.IsLog old) world.files)
      (Action.onFiles work) (fun _ => World.AlikeBut old)
      (World.AlikeBut old) := by
  rintro world other ⟨alike, guarded⟩
  obtain ⟨result, files, otherFiles, runs, runsOther, holds⟩ :=
    agrees (world.IsLog old) world.files other.files ⟨alike.files, guarded⟩
  have alikeAfter : files.AlikeBut (world.IsLog old) otherFiles →
      World.AlikeBut old { world with files := files }
        { other with files := otherFiles } := fun filesAlike =>
    ⟨filesAlike, alike.output, alike.terminal, alike.shipped,
      alike.platform, alike.otherWrites⟩
  rw [Action.run_onFiles, Action.run_onFiles, runs, runsOther]
  cases result with
  | ok value => exact ⟨_, _, _, rfl, rfl, alikeAfter holds⟩
  | error failure => exact ⟨_, _, _, rfl, rfl, alikeAfter holds⟩

theorem indifferent_onFiles {work : FileAction α}
    (indifferent : ∀ isLog : Nat → Prop,
      Indifferent (FileTree.AlikeBut isLog) work) :
    Indifferent (World.AlikeBut old) (Action.onFiles work) :=
  (agrees_onFiles (fun _ _ => True) fun isLog =>
    (indifferent isLog).of_begins fun _ _ => And.left).of_begins
      fun _ _ alike => ⟨alike, trivial⟩

theorem agrees_read (path : PathName) :
    Agrees (fun world other => world.AlikeBut old other ∧
        world.ReadsNoLog old path)
      (Action.onFiles (FileAction.read path)) (fun _ => World.AlikeBut old)
      (World.AlikeBut old) :=
  agrees_onFiles
    (fun isLog tree =>
      ∀ identity, isLog identity → tree.Avoids path identity)
    fun _ => FileAction.agrees_read path

/-- Work that only writes records and is indifferent to logging is so beside a
path that leads to no log file, and the path still leads to none. -/
theorem agrees_beside {work : Action α} (path : PathName)
    (indifferent : Indifferent (World.AlikeBut old) work)
    (only : Relates World.OnlyRecords work) :
    Agrees (fun world other => world.AlikeBut old other ∧
        world.ReadsNoLog old path) work
      (fun _ world other => world.AlikeBut old other ∧
        world.ReadsNoLog old path)
      (World.AlikeBut old) :=
  (indifferent.and_preserves (preserves_readsNoLog only path)).imp
    (fun _ _ holds => holds) (fun _ _ _ holds => holds) fun _ _ => And.left

theorem agrees_pathExists (path : PathName) :
    Agrees (fun world other => world.AlikeBut old other ∧
        world.ReadsNoLog old path)
      (Action.onFiles (FileAction.pathExists path))
      (fun _ world other => world.AlikeBut old other ∧
        world.ReadsNoLog old path)
      (World.AlikeBut old) :=
  agrees_beside path
    (indifferent_onFiles fun _ => FileAction.indifferent_pathExists path)
    (Action.onlyRecords_onFiles fun tree => by rw [FileAction.run_pathExists])

theorem agrees_logBeside (path : PathName) (level : Int)
    (logger message : Text) (arguments : List Value) :
    Agrees (fun world other => world.AlikeBut old other ∧
        world.ReadsNoLog old path)
      (Action.log level logger message arguments)
      (fun _ world other => world.AlikeBut old other ∧
        world.ReadsNoLog old path)
      (World.AlikeBut old) :=
  agrees_beside path (indifferent_log level logger message arguments)
    (Action.onlyRecords_log level logger message arguments)

theorem indifferent_throw (failure : Failure) :
    Indifferent (World.AlikeBut old) (throw failure : Action α) :=
  .throw fun _ _ alike => alike

theorem indifferent_pure (value : α) :
    Indifferent (World.AlikeBut old) (pure value : Action α) :=
  .pure fun _ _ alike => alike

end Works

section Loading

variable {old : Nat → Prop}

theorem Dataset.indifferent_loadContent (path : PathName)
    (content : List UInt8) :
    Indifferent (World.AlikeBut old) (Dataset.loadContent path content) := by
  unfold Dataset.loadContent
  cases Dataset.ofBytes content with
  | error fault => exact indifferent_throw _
  | ok dataset =>
      exact (indifferent_log _ _ _ _).bind fun _ => indifferent_pure dataset

theorem Dataset.agrees_load (path : PathName) :
    Agrees (fun world other => world.AlikeBut old other ∧
        world.ReadsNoLog old path)
      (Dataset.load path) (fun _ => World.AlikeBut old)
      (World.AlikeBut old) := by
  have goesOn := (@agrees_logBeside old path 20
    "allocgen.dataset.loader" "Loading allocations from %s"
    [.text path.toText]).bind fun _ => (agrees_read path).bind
      (Dataset.indifferent_loadContent path)
  rw [Dataset.load_eq]
  refine (agrees_pathExists path).bind fun isThere => ?_
  cases isThere with
  | false => exact .throw fun _ _ => And.left
  | true => exact goesOn

theorem Yaml.agrees_loadFile (path : PathName) :
    Agrees (fun world other => world.AlikeBut old other ∧
        world.ReadsNoLog old path)
      (Yaml.loadFile path) (fun _ => World.AlikeBut old)
      (World.AlikeBut old) := by
  have looks := @agrees_beside old _ _ path
    (indifferent_onFiles fun _ => FileAction.indifferent_isFile path)
    (Action.onlyRecords_onFiles (FileAction.run_isFile_tree path))
  unfold Yaml.loadFile
  apply Agrees.get_bind
  · rintro world other ⟨alike, -⟩
    rw [alike.platform]
  · intro state
    apply Agrees.of_begins (fun _ _ => And.left)
    refine looks.bind fun isThere => ?_
    cases isThere with
    | false => exact .throw fun _ _ => And.left
    | true =>
        refine (agrees_read path).bind fun content => ?_
        cases Yaml.load state.platform.interpreter content with
        | error fault => exact indifferent_throw _
        | ok value => exact indifferent_pure value

theorem Configuration.agrees_load (given : Option PathName) :
    Agrees (fun world other => world.AlikeBut old other ∧
        world.ReadsNoLog old (given.getD world.shipped))
      (Configuration.load given) (fun _ => World.AlikeBut old)
      (World.AlikeBut old) := by
  unfold Configuration.load
  apply Agrees.get_bind
  · rintro world other ⟨alike, -⟩
    rw [alike.shipped, alike.platform]
  · intro state
    have begins : ∀ world other : World,
        (world.AlikeBut old other ∧
          world.ReadsNoLog old (given.getD world.shipped)) ∧ world = state →
        world.AlikeBut old other ∧
          world.ReadsNoLog old (given.getD state.shipped) := by
      rintro _ _ ⟨holds, rfl⟩
      exact holds
    apply Agrees.of_begins begins
    dsimp only
    generalize given.getD state.shipped = path
    refine (agrees_pathExists path).bind fun isThere => ?_
    cases isThere with
    | false => exact .throw fun _ _ => And.left
    | true =>
        refine (agrees_logBeside path _ _ _ _).bind fun _ => ?_
        refine ((Yaml.agrees_loadFile path).tryCatch fun _ =>
          indifferent_throw _).bind fun value => ?_
        cases Configuration.ofValue state.platform.interpreter.texts path value
          with
        | error fault => exact indifferent_throw _
        | ok configuration => exact indifferent_pure configuration

end Loading

section Generating

variable {old : Nat → Prop}

theorem Action.indifferent_logNotices (notices : List RenderNotice) :
    Indifferent (World.AlikeBut old) (notices.forM Action.logNotice) := by
  induction notices with
  | nil => exact indifferent_pure _
  | cons notice notices ih =>
      have logs : Indifferent (World.AlikeBut old)
          (Action.logNotice notice) := by
        cases notice <;> exact indifferent_log _ _ _ _
      exact logs.bind fun _ => ih

theorem Action.indifferent_takeRendering (rendering : Rendering) :
    Indifferent (World.AlikeBut old) (Action.takeRendering rendering) := by
  refine (Action.indifferent_logNotices rendering.notices).bind fun _ => ?_
  cases rendering.outcome with
  | error fault => exact indifferent_throw _
  | ok text => exact indifferent_pure text

/-- What is generated from a dataset that is no log file does not depend on
logging. -/
theorem Configuration.agrees_generate (configuration : Configuration)
    (dropped : List Text) :
    Agrees (fun world other => world.AlikeBut old other ∧
        world.ReadsNoLog old configuration.input)
      (configuration.generate .file dropped) (fun _ => World.AlikeBut old)
      (World.AlikeBut old) :=
  (Dataset.agrees_load configuration.input).bind fun _ =>
    (Action.indifferent_takeRendering _).bind fun _ => indifferent_pure _

theorem Action.indifferent_replaceText (path : PathName) (text : Text) :
    Indifferent (World.AlikeBut old) (Action.replaceText path text) := by
  apply Agrees.get_bind
  · intro world other alike
    rw [alike.platform]
  · intro world
    apply Agrees.of_begins (fun _ _ => And.left)
    exact (indifferent_onFiles fun _ =>
      FileAction.indifferent_replaceText _ path text).bind fun _ =>
        indifferent_log _ _ _ _

end Generating

section Setup

variable {old : Nat → Prop}

/-- A change of logging that keeps the handlers keeps worlds alike. -/
theorem indifferent_onLogging {change : LogState → LogState}
    (same : ∀ state, (change state).handlers = state.handlers) :
    Indifferent (World.AlikeBut old) (Action.onLogging change) := by
  have writes : ∀ state identity,
      (change state).WritesTo identity ↔ state.WritesTo identity := by
    intro state identity
    rw [LogState.WritesTo, LogState.WritesTo, same]
  apply Agrees.modify
  intro world other alike
  have sameLogs : ({ world with logging := change world.logging } :
      World).IsLog old = world.IsLog old := by
    funext identity
    exact propext (or_congr Iff.rfl (writes world.logging identity))
  refine ⟨?_, alike.output, alike.terminal, alike.shipped,
    alike.platform, ?_⟩
  · rw [sameLogs]
    exact alike.files
  · intro identity otherWrites
    rw [sameLogs]
    exact alike.otherWrites identity
      ((writes other.logging identity).mp otherWrites)

theorem indifferent_openLogFile (path : PathName) :
    Indifferent (World.AlikeBut old) (Action.openLogFile path) := by
  refine (indifferent_onFiles fun _ =>
    FileAction.indifferent_ensureDirectory path.parent .sound).bind fun _ => ?_
  apply Agrees.get_bind
  · intro world other alike
    rw [FileTree.absolute_congr alike.files.workingDirectory]
  · intro state
    exact (indifferent_onFiles fun _ =>
      FileAction.indifferent_openToAppend _).of_begins fun _ _ => And.left

theorem indifferent_fileHandler (logFile : Option Text) (json : Bool) :
    Indifferent (World.AlikeBut old) (Action.fileHandler logFile json) := by
  cases logFile with
  | none => exact indifferent_pure _
  | some name =>
      cases name with
      | nil => exact indifferent_pure _
      | cons first rest =>
          exact (indifferent_openLogFile _).bind fun _ => indifferent_pure _

theorem sameLogging_fileHandler (logFile : Option Text) (json : Bool) :
    Relates (fun world after => after.logging = world.logging)
      (Action.fileHandler logFile json) := by
  have transitive : ∀ ⦃first second third : World⦄,
      second.logging = first.logging → third.logging = second.logging →
        third.logging = first.logging :=
    fun _ _ _ before after => after.trans before
  have files : ∀ {α : Type} (work : FileAction α),
      Relates (fun world after => after.logging = world.logging)
        (Action.onFiles work) := by
    intro α work world
    rw [Action.run_onFiles]
  cases logFile with
  | none => exact fun _ => rfl
  | some name =>
      cases name with
      | nil => exact fun _ => rfl
      | cons first rest =>
          refine .bind transitive ?_ fun _ _ => rfl
          refine .bind transitive (files _) fun _ => ?_
          exact .bind transitive (fun _ => rfl) fun _ => files _

theorem World.WritesOldOnly.isLog_iff {world : World}
    (oldOnly : world.WritesOldOnly old) (identity : Nat) :
    world.IsLog old identity ↔ old identity :=
  ⟨fun isLog => isLog.elim id (oldOnly identity), .inl⟩

/-- The handlers that a setup replaces leave old log files behind. -/
theorem agrees_withoutInstalled :
    Agrees (fun world other => world.AlikeBut old other ∧
        world.WritesOldOnly old)
      (Action.onLogging LogState.withoutInstalled)
      (fun _ world other => world.AlikeBut old other ∧
        world.WritesOldOnly old)
      (World.AlikeBut old) := by
  apply Agrees.modify
  rintro world other ⟨alike, oldOnly⟩
  have fewer : ∀ {state : LogState} {identity : Nat},
      state.withoutInstalled.WritesTo identity → state.WritesTo identity :=
    fun ⟨style, attached⟩ => ⟨style, List.mem_of_mem_filter attached⟩
  refine ⟨⟨?_, alike.output, alike.terminal, alike.shipped,
    alike.platform, ?_⟩, ?_⟩
  · exact alike.files.mono fun identity isLog =>
      .inl ((oldOnly.isLog_iff identity).mp isLog)
  · exact fun identity writes => .inl ((oldOnly.isLog_iff identity).mp
      (alike.otherWrites identity (fewer writes)))
  · exact fun identity writes => oldOnly identity (fewer writes)

theorem agrees_fileHandler (logFile : Option Text) (json : Bool) :
    Agrees (fun world other => world.AlikeBut old other ∧
        world.WritesOldOnly old)
      (Action.fileHandler logFile json)
      (fun _ world other => world.AlikeBut old other ∧
        world.WritesOldOnly old)
      (World.AlikeBut old) := by
  have keeps : Preserves (World.WritesOldOnly old)
      (Action.fileHandler logFile json) :=
    (sameLogging_fileHandler logFile json).preserves
      fun world after same oldOnly identity writes =>
        oldOnly identity (same ▸ writes)
  exact ((indifferent_fileHandler logFile json).and_preserves keeps).imp
    (fun _ _ holds => holds) (fun _ _ _ holds => holds) fun _ _ => And.left

/-- The handlers that a setup installs are the same in both worlds. -/
theorem agrees_install (level : Int) (handlers : List Handler) :
    Agrees (fun world other => world.AlikeBut old other ∧
        world.WritesOldOnly old)
      (Action.onLogging fun state => state.install level handlers)
      (fun _ => World.AlikeBut old) (World.AlikeBut old) := by
  apply Agrees.modify
  rintro world other ⟨alike, oldOnly⟩
  refine ⟨?_, alike.output, alike.terminal, alike.shipped,
    alike.platform, ?_⟩
  · exact alike.files.mono fun identity isLog =>
      .inl ((oldOnly.isLog_iff identity).mp isLog)
  · rintro identity ⟨style, attached⟩
    rcases List.mem_append.mp attached with before | added
    · exact .inl ((oldOnly.isLog_iff identity).mp
        (alike.otherWrites identity ⟨style, before⟩))
    · exact .inr ⟨style, List.mem_append_right _ added⟩

theorem indifferent_pushContext (fields : List (Value × Value)) :
    Indifferent (World.AlikeBut old) (Action.pushContext fields) := by
  unfold Action.pushContext
  split
  · exact indifferent_throw _
  · exact indifferent_onLogging fun _ => rfl

/-- Setting up logging ends in the same way whatever the handlers were that it
replaces. -/
theorem agrees_setUpLogging (levelText : Text) (logFile : Option Text)
    (json : Bool) (fields : List (Value × Value)) :
    Agrees (fun world other => world.AlikeBut old other ∧
        world.WritesOldOnly old)
      (Action.setUpLogging levelText logFile json fields)
      (fun _ => World.AlikeBut old) (World.AlikeBut old) := by
  have captures : Indifferent (World.AlikeBut old) (Action.onLogging
      fun state => { state with capturesWarnings := true }) :=
    indifferent_onLogging fun _ => rfl
  unfold Action.setUpLogging
  split
  · exact .throw fun _ _ => And.left
  · refine agrees_withoutInstalled.bind fun _ => ?_
    apply Agrees.get_bind
    · rintro world other ⟨alike, -⟩
      rw [alike.terminal]
    · intro state
      apply Agrees.of_begins (fun _ _ => And.left)
      refine (agrees_fileHandler logFile json).bind fun handlers => ?_
      refine (agrees_install _ _).bind fun _ => ?_
      exact (indifferent_pushContext fields).bind fun _ =>
        captures.bind fun _ => indifferent_pure _

end Setup

end VestingContract
