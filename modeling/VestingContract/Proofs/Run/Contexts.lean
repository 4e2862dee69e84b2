import VestingContract.Proofs.Log.Collisions
import VestingContract.Proofs.Run.Delivering
import VestingContract.Proofs.Run.Indifference
import VestingContract.Proofs.Run.Records

/-!
# Contexts of records

A program sets up logging and pushes fields, in any order, and some of the
steps fail.  What its context keeps is what the steps that succeed have pushed.
Two programs with different contexts write the same record, and the lines tell
which of its fields come from the record and which from what was pushed: there
are no names that a push has to spare.
-/

namespace VestingContract

open Stateful

namespace LogStep

/-- The fields that a step pushes if it succeeds. -/
def fields : LogStep → LogContext
  | setUp _ _ _ pairs | push pairs => (LogContext.ofPairs? pairs).getD []
  | record .. | moment .. => []

/-- The world that a step leaves, be it that the step has failed. -/
def after (step : LogStep) (world : World) : World :=
  (step.perform.run world).2

/-- The fields that a step pushes; a step that fails pushes none. -/
def pushed (step : LogStep) (world : World) : LogContext :=
  match (step.perform.run world).1 with
  | .ok _ => step.fields
  | .error _ => []

variable {kept : LogContext}

theorem ensures_pushContext_extends (pairs : List (Value × Value)) :
    Ensures (fun world : World => world.logging.context = kept)
      (Action.pushContext pairs)
      (fun _ after => after.logging.context =
        kept.extend ((LogContext.ofPairs? pairs).getD []))
      (fun _ after => after.logging.context = kept) := by
  unfold Action.pushContext
  split
  · exact .throw fun _ same => same
  · next context named =>
      rw [named]
      exact .modify fun world same => congrArg (LogContext.extend · context) same

theorem ensures_setUpLogging_extends (levelText : Text)
    (logFile : Option Text) (json : Bool) (pairs : List (Value × Value)) :
    Ensures (fun world : World => world.logging.context = kept)
      (Action.setUpLogging levelText logFile json pairs)
      (fun _ after => after.logging.context =
        kept.extend ((LogContext.ofPairs? pairs).getD []))
      (fun _ after => after.logging.context = kept) := by
  have opens : Preserves (fun world : World => world.logging.context = kept)
      (Action.fileHandler logFile json) :=
    (sameLogging_fileHandler logFile json).preserves
      fun world after same isKept => by rw [same, isKept]
  refine ensures_setUpLogging_of_stages (fun _ same => same)
    (.modify fun _ same => same) opens
    (fun _ _ _ _ _ => .modify fun _ same => same)
    (ensures_pushContext_extends pairs) (.modify fun _ same => same)

/-- A step that succeeds adds its fields to the context, and one that fails
leaves the context as it is. -/
theorem ensures_perform_extends (step : LogStep) :
    Ensures (fun world : World => world.logging.context = kept) step.perform
      (fun _ after => after.logging.context = kept.extend step.fields)
      (fun _ after => after.logging.context = kept) := by
  cases step with
  | setUp levelText logFile json pairs =>
      exact (ensures_setUpLogging_extends levelText logFile json pairs).bind
        fun _ => .pure fun _ same => same
  | push pairs => exact ensures_pushContext_extends pairs
  | record level logger message arguments exception =>
      apply Ensures.modify
      intro world same
      rw [(World.onlyRecords_emit world level _).logging, same]
      rfl
  | moment clock terminal => exact .modify fun _ same => same

/-- What is kept in the context goes on with what a step pushes. -/
theorem keeps_after {world : World} {written : LogContext}
    (keeps : LogContext.Keeps world.logging.context written)
    (step : LogStep) :
    LogContext.Keeps (step.after world).logging.context
      (written ++ step.pushed world) := by
  rw [after, pushed]
  rcases ends : step.perform.run world with ⟨result, other⟩
  have context := step.ensures_perform_extends world rfl result other ends
  cases result with
  | ok _ =>
      dsimp only at context ⊢
      rw [context]
      exact keeps.extend step.fields
  | error failure =>
      dsimp only at context ⊢
      rwa [context, List.append_nil]

end LogStep

namespace World

/-- The world after steps, each of which may have failed. -/
def afterSteps (world : World) (steps : List LogStep) : World :=
  steps.foldl (fun world step => step.after world) world

/-- The fields that steps push, in order. -/
def pushedFields (world : World) : List LogStep → LogContext
  | [] => []
  | step :: steps =>
      step.pushed world ++ pushedFields (step.after world) steps

theorem keeps_afterSteps {world : World} {written : LogContext}
    (keeps : LogContext.Keeps world.logging.context written)
    (steps : List LogStep) :
    LogContext.Keeps (world.afterSteps steps).logging.context
      (written ++ world.pushedFields steps) := by
  -- The later steps begin with what the first one has left.
  induction steps generalizing world written with
  | nil =>
      rw [pushedFields, List.append_nil]
      exact keeps
  | cons step steps ih =>
      rw [pushedFields, ← List.append_assoc]
      exact ih (step.keeps_after keeps)

end World

section Contexts

variable {world other : World} {record : Record} {time message : Text}

theorem showsFields_afterSteps (unset : world.logging.context = [])
    (stamped : stamp record.created = .ok time)
    (formatted : record.messageText = .ok message) (steps : List LogStep) :
    record.ShowsFields time message (world.afterSteps steps).logging.context
      (world.pushedFields steps)
      (record.members time message
        (world.afterSteps steps).logging.context) := by
  have begins : LogContext.Keeps world.logging.context [] := by
    rw [unset]
    exact LogContext.keeps_nil
  exact Record.showsFields_members stamped formatted
    (World.keeps_afterSteps begins steps)

/-- Over any two histories of setups and pushes, the JSON lines of a record show
the fields of the record, the pushed ones and the exception.  A field of the
record is shown as it is just if no other value was last pushed under its name,
it is the same in both lines just if the same stands in for it, and what was
last pushed is shown just if the exception does not take its name. -/
theorem jsonLines_show_contexts (steps otherSteps : List LogStep)
    (unset : world.logging.context = [])
    (otherUnset : other.logging.context = [])
    (stamped : stamp record.created = .ok time)
    (formatted : record.messageText = .ok message) :
    ∃ members otherMembers,
      record.ShowsFields time message
        (world.afterSteps steps).logging.context (world.pushedFields steps)
        members ∧
      record.ShowsFields time message
        (other.afterSteps otherSteps).logging.context
        (other.pushedFields otherSteps) otherMembers ∧
      ((∀ field ∈ record.ownFields time message,
          members.lookup field.1 = otherMembers.lookup field.1) ↔
        ∀ field ∈ record.ownFields time message,
          ((world.pushedFields steps).last? field.1).getD field.2 =
            ((other.pushedFields otherSteps).last? field.1).getD field.2) := by
  have shows := showsFields_afterSteps unset stamped formatted steps
  have otherShows :=
    showsFields_afterSteps otherUnset stamped formatted otherSteps
  refine ⟨_, _, shows, otherShows, forall₂_congr fun field isOwn => ?_⟩
  rw [shows.ownValues field isOwn, otherShows.ownValues field isOwn,
    Option.some_inj]

end Contexts

section Forging

/-- A record of a full disk. -/
def diskRecord : Record where
  created := .int 0
  levelName := "ERROR"
  logger := "allocgen.test"
  message := "disk full"
  arguments := .sequence []
  exception := none

/-- A push of a message. -/
def messageSteps : List LogStep :=
  [.push [(.text "msg", .text "all is well")]]

/-- The line that shows the pushed message in place of the record's own. -/
def forgedLine : Text :=
  "\x7b\"t\": \"1970-01-01T00:00:00.000Z\", \"lvl\": \"ERROR\", " ++
    "\"name\": \"allocgen.test\", \"msg\": \"all is well\"\x7d"

theorem jsonLine_shows_forged_message : ∃ members,
    diskRecord.jsonLine
        (listenedWorld.afterSteps messageSteps).logging.context =
      .ok forgedLine ∧
    Record.Tells (fun _ => False) 400 forgedLine members ∧
    ¬ diskRecord.ShowsOwn "1970-01-01T00:00:00.000Z" "disk full" members := by
  have named : ∀ name : String, (Text.ofString name).IsWhole :=
    Text.isWhole_ofString
  have written : diskRecord.jsonLine
      (listenedWorld.afterSteps messageSteps).logging.context =
        .ok forgedLine := by
    decide +kernel
  have pushed : listenedWorld.pushedFields messageSteps =
      ([("msg", .text "all is well")] : LogContext) := rfl
  have shows := @showsFields_afterSteps listenedWorld diskRecord
    "1970-01-01T00:00:00.000Z" "disk full" rfl (by decide +kernel) rfl
    messageSteps
  have whole : diskRecord.IsWhole "disk full" :=
    ⟨named _, named _, named _, fun _ isNone => nomatch isNone⟩
  obtain ⟨line, isLine, tells⟩ := shows.told (fun _ => False) 400 (le_refl _)
    whole
    (by
      rw [pushed, List.forall_mem_singleton]
      exact ⟨named _, .text (named _)⟩)
  obtain rfl := Except.ok.inj (isLine.symm.trans written)
  refine ⟨_, written, tells, fun showsOwn => ?_⟩
  have spares := shows.showsOwn.mp showsOwn ("msg", .text "disk full")
    (by simp [Record.ownFields]) (.text "all is well") (by rw [pushed]; rfl)
  exact absurd (Value.text.inj spares) (by decide)

/-- The record of a full disk with the error that told of it. -/
def reportedRecord : Record :=
  { diskRecord with exception := some "OSError: no space" }

/-- A setup with a field, one of a level that there is not, and pushes under
the names of a record's message and of its exception. -/
def forgingSteps : List LogStep :=
  [.setUp "INFO" none true [(.text "app", .text "run")],
    .setUp "LOUD" none true [(.text "lvl", .text "DEBUG")],
    .push [(.text "msg", .text "all is well")],
    .push [(.text "exc", .null), (.text "share", .float (.finite false 1 (-1)))]]

theorem jsonLines_show_forgingSteps :
    ∃ members otherMembers,
      reportedRecord.ShowsFields "1970-01-01T00:00:00.000Z" "disk full"
        (listenedWorld.afterSteps forgingSteps).logging.context
        (listenedWorld.pushedFields forgingSteps) members ∧
      reportedRecord.ShowsFields "1970-01-01T00:00:00.000Z" "disk full"
        (listenedWorld.afterSteps []).logging.context
        (listenedWorld.pushedFields []) otherMembers ∧
      ((∀ field ∈ reportedRecord.ownFields "1970-01-01T00:00:00.000Z"
            "disk full",
          members.lookup field.1 = otherMembers.lookup field.1) ↔
        ∀ field ∈ reportedRecord.ownFields "1970-01-01T00:00:00.000Z"
            "disk full",
          ((listenedWorld.pushedFields forgingSteps).last? field.1).getD
              field.2 =
            ((listenedWorld.pushedFields []).last? field.1).getD field.2) :=
  jsonLines_show_contexts forgingSteps [] rfl rfl (by decide +kernel) rfl

example : listenedWorld.pushedFields forgingSteps =
    ([("app", .text "run"), ("msg", .text "all is well"), ("exc", .null),
      ("share", .float (.finite false 1 (-1)))] : LogContext) :=
  rfl

end Forging

end VestingContract
