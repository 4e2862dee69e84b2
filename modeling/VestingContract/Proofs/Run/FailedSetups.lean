import VestingContract.Proofs.Run.Delivering

/-!
# Setups of logging that fail

A setup looks at the name of the level before it changes anything.  It takes
the handlers of the setup before away before it opens its log file, so that a
file that cannot be opened leaves the program without handlers of its own:
the level and the context are those of before, but records are delivered as if
there had never been a setup.
-/

namespace VestingContract

open Stateful

section Outcomes

variable {levelText : Text} {logFile : Option Text} {json : Bool}
  {fields : List (Value × Value)} {world after : World} {failure : Failure}

theorem run_pushContext_of_named {context : LogContext}
    (named : LogContext.ofPairs? fields = some context) (world : World) :
    (Action.pushContext fields).run world =
      (.ok ⟨⟩, { world with logging := world.logging.push context }) := by
  rw [Action.pushContext, named]
  rfl

/-- A setup fails at the name of its level, before anything else, or at its
log file, or at a field of the context without a name. -/
theorem run_setUpLogging_error
    (fails : (Action.setUpLogging levelText logFile json fields).run world =
      (.error failure, after)) :
    levelOfName? levelText.toUpper = none ∧ after = world ∨
    (∃ level, levelOfName? levelText.toUpper = some level) ∧
      (failure = .unnamedField ∨
        ∃ name, (Action.openLogFile (PathName.ofText name)).run
          world.withoutInstalled = (.error failure, after)) := by
  have removes : (Action.onLogging LogState.withoutInstalled).run world =
      (.ok ⟨⟩, world.withoutInstalled) := rfl
  have looks : (get : Action World).run world.withoutInstalled =
      (.ok world.withoutInstalled, world.withoutInstalled) := rfl
  cases known : levelOfName? levelText.toUpper with
  | none =>
      simp only [Action.setUpLogging, known] at fails
      cases fails
      exact .inl ⟨rfl, rfl⟩
  | some level =>
      refine .inr ⟨⟨level, rfl⟩, ?_⟩
      simp only [Action.setUpLogging, known] at fails
      rw [run_bind_of_ok removes, run_bind_of_ok looks] at fails
      rcases run_fileHandler_cases logFile json world.withoutInstalled with
        ⟨name, other, opened, -, -, opens, handler⟩ |
          ⟨-, handlers, opened, handler⟩
      · rw [run_bind_of_error handler] at fails
        cases fails
        exact .inr ⟨name, opens⟩
      · rw [run_bind_of_ok handler] at fails
        cases named : LogContext.ofPairs? fields with
        | none =>
            rw [Action.pushContext, named] at fails
            cases fails
            exact .inl rfl
        | some context =>
            have installs : (Action.onLogging fun state =>
                state.install level (.console world.withoutInstalled.terminal
                  :: handlers)).run opened = (.ok ⟨⟩, _) := rfl
            rw [run_bind_of_ok installs,
              run_bind_of_ok (run_pushContext_of_named named _)] at fails
            cases fails

end Outcomes

namespace World

/-- What a setup that has failed leaves.  An unknown level changes nothing.
A log file that cannot be opened costs the handlers of the setup before, and
directories may have been made for it. -/
structure IsLeftUnset (levelText : Text) (world after : World) : Prop where
  unknown : levelOfName? levelText.toUpper = none → after = world
  files : world.files.OnlyDirectories after.files
  others : after =
    { world with files := after.files, logging := after.logging }
  level : after.logging.level = world.logging.level
  context : after.logging.context = world.logging.context
  known : ∀ level, levelOfName? levelText.toUpper = some level →
    after.logging = world.logging.withoutInstalled
  unchanged : after.logging = world.logging ↔
    levelOfName? levelText.toUpper = none ∨
      ∀ handler ∈ world.logging.handlers, handler.isInstalled = false
  later : ∀ level, levelOfName? levelText.toUpper = some level →
    ∀ steps last, (steps.forM LogStep.perform).run after = (.ok ⟨⟩, last) →
      after.HasDelivered (LogHistory.ofSteps after steps) last

variable {world after : World}

theorem forall_handlers_withoutInstalled (state : LogState) :
    ∀ handler ∈ state.withoutInstalled.handlers,
      handler.isInstalled = false := by
  intro handler member
  simpa using (List.mem_filter.mp member).2

theorem withoutInstalled_eq_self_iff {state : LogState} :
    state.withoutInstalled = state ↔
      ∀ handler ∈ state.handlers, handler.isInstalled = false := by
  constructor
  · intro same
    rw [← same]
    exact forall_handlers_withoutInstalled state
  · intro foreign
    have keeps : state.handlers.filter (!·.isInstalled) = state.handlers :=
      List.filter_eq_self.mpr fun handler member => by
        rw [foreign handler member, Bool.not_false]
    rw [LogState.withoutInstalled, keeps]

theorem isLeftUnset_self {levelText : Text}
    (unknown : levelOfName? levelText.toUpper = none) (world : World) :
    IsLeftUnset levelText world world where
  unknown _ := rfl
  files := .refl world.files
  others := rfl
  level := rfl
  context := rfl
  known level isLevel := by
    rw [unknown] at isLevel
    cases isLevel
  unchanged := ⟨fun _ => .inl unknown, fun _ => rfl⟩
  later level isLevel := by
    rw [unknown] at isLevel
    cases isLevel

theorem isLeftUnset_withoutInstalled {levelText : Text} {level : Int}
    (known : levelOfName? levelText.toUpper = some level) {files : FileTree}
    (wellFormed : files.WellFormed)
    (only : world.files.OnlyDirectories files) :
    IsLeftUnset levelText world
      { world.withoutInstalled with files := files } where
  unknown isUnknown := by
    rw [known] at isUnknown
    cases isUnknown
  files := only
  others := rfl
  level := rfl
  context := rfl
  known _ _ := rfl
  unchanged := by
    simp only [known, reduceCtorEq, false_or]
    exact withoutInstalled_eq_self_iff
  later _ _ steps last succeeds :=
    ensures_performAll_delivers
      (forall_handlers_withoutInstalled world.logging) steps _
      (hasDelivered_begin wellFormed) _ _ succeeds

end World

/-- A setup that fails at its level changes nothing, and one that fails at its
log file leaves everything but some directories and the handlers of the setup
before, which are gone.  Whatever is done then, as long as it succeeds, is
delivered as if no setup had been in force. -/
theorem setUpLogging_leaves_unset {levelText : Text} {logFile : Option Text}
    {json : Bool} {fields : List (Value × Value)} {world after : World}
    {failure : Failure} (wellFormed : world.files.WellFormed)
    (fails : (Action.setUpLogging levelText logFile json fields).run world =
      (.error failure, after))
    (named : failure ≠ .unnamedField) :
    World.IsLeftUnset levelText world after := by
  rcases run_setUpLogging_error fails with
    ⟨unknown, rfl⟩ | ⟨⟨level, known⟩, isUnnamed | ⟨name, opens⟩⟩
  · exact World.isLeftUnset_self unknown after
  · exact absurd isUnnamed named
  · have wellFormedUnset : world.withoutInstalled.files.WellFormed :=
      wellFormed
    obtain ⟨base, wellFormedBase, only, cases⟩ :=
      run_openLogFile_cases wellFormedUnset opens
    rcases cases with ⟨_, -, rfl⟩ | ⟨_, _, ⟨⟩, -⟩
    exact World.isLeftUnset_withoutInstalled known wellFormedBase only

section Directories

/-- A world without files, in which nothing has been set up. -/
def idleWorld : World where
  files := ⟨[], [], 0⟩
  logging := .initial
  output := []
  errors := []
  uses := []
  clock := .int 0
  terminal := false
  shipped := ⟨1, []⟩

theorem wellFormed_idleWorld : idleWorld.files.WellFormed := by
  apply FileTree.wellFormed_of_root rfl
  · intro entry member
    cases member
  · intro entry member
    cases member

/-- The world after one setup without a log file. -/
def listeningWorld : World :=
  { idleWorld with
    logging :=
      { level := 20, handlers := [.console false], context := [],
        capturesWarnings := true, reportsUncaught := false } }

theorem run_setUpLogging_once :
    ([LogStep.setUp "INFO" none false []].forM LogStep.perform).run
      idleWorld = (.ok ⟨⟩, listeningWorld) := rfl

/-- The log file of the second setup is a directory. -/
theorem run_setUpLogging_directory : ∃ failure after,
    (Action.setUpLogging "DEBUG" (some ".") false []).run listeningWorld =
      (.error (.files failure), after) ∧
    after.logging.handlers = [] := by
  have fails : ((Action.setUpLogging "DEBUG" (some ".") false []).run
      listeningWorld).1 =
        .error (.files (.file (.system .isDirectory "/"))) := by
    decide +kernel
  have removed : ((Action.setUpLogging "DEBUG" (some ".") false []).run
      listeningWorld).2.logging.handlers = [] := by
    decide +kernel
  exact ⟨_, _, Prod.ext fails rfl, removed⟩

/-- The level of the first setup stays, but its handler is gone. -/
theorem setUpLogging_leaves_unset_directory : ∃ failure after,
    (Action.setUpLogging "DEBUG" (some ".") false []).run listeningWorld =
      (.error failure, after) ∧
    World.IsLeftUnset "DEBUG" listeningWorld after ∧
    after.logging.level = 20 ∧ after.logging.handlers = [] := by
  obtain ⟨failure, after, fails, removed⟩ := run_setUpLogging_directory
  have left : World.IsLeftUnset "DEBUG" listeningWorld after :=
    setUpLogging_leaves_unset wellFormed_idleWorld fails
      Failure.noConfusion
  exact ⟨_, after, fails, left, left.level, removed⟩

/-- Not every setup that fails leaves the handlers alone. -/
theorem setUpLogging_removes_handlers :
    ¬ ∀ (start world after : World) (steps : List LogStep)
      (levelText : Text) (logFile : Option Text) (json : Bool)
      (fields : List (Value × Value)) (failure : FileFailure),
      start.files.WellFormed → start.logging = .initial →
      (steps.forM LogStep.perform).run start = (.ok ⟨⟩, world) →
      (Action.setUpLogging levelText logFile json fields).run world =
        (.error (.files failure), after) →
      after.logging.handlers = world.logging.handlers := by
  intro claim
  obtain ⟨failure, after, fails, removed⟩ := run_setUpLogging_directory
  have same := claim _ _ after _ _ _ _ _ failure wellFormed_idleWorld
    rfl run_setUpLogging_once fails
  rw [removed] at same
  cases same

end Directories

end VestingContract
