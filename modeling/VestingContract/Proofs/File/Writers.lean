import Mathlib.Logic.Relation
import VestingContract.Proofs.File.Replacing

/-!
# Writers at work together

A target is replaced in steps: the directories above it are made, a temporary
file is created and written, and this file takes the target's place.  Any
number of writers take their steps in any order on one tree, and each of them
may fail or stop before any of its steps.
-/

namespace VestingContract

/-- A text for a target, with the number of the temporary name that its writer
settles on. -/
structure WriteRequest where
  target : PathName
  text : Text
  number : Nat
  deriving DecidableEq, Repr

namespace WriteRequest

variable (request : WriteRequest) (tree : FileTree)

/-- The place that the target spells. -/
def place : List Text :=
  (tree.absolute request.target).names

/-- The path of the temporary file. -/
def temporary : PathName :=
  (tree.absolute request.target.parent).child
    (FileAction.temporaryName request.target.name request.number)

/-- The place of the temporary file. -/
def temporaryPlace : List Text :=
  (request.temporary tree).names

end WriteRequest

/-- How far a writer is with its open temporary file. -/
inductive WriteStage where
  | fresh
  | writing (rest : List UInt8)
  | synced
  | failing
  deriving DecidableEq, Repr

/-- How far a writer is. -/
inductive WritePhase where
  | waiting
  | prepared
  | opened (identity : Nat) (stage : WriteStage)
  | returned
  | failed
  | crashed
  deriving DecidableEq, Repr

namespace WritePhase

/-- There are steps left to take. -/
def AtWork : WritePhase → Prop
  | waiting | prepared | opened .. => True
  | returned | failed | crashed => False

/-- How a writer that has not crashed has ended. -/
def ofResult {ε : Type} : Except ε Unit → WritePhase
  | .ok _ => returned
  | .error _ => failed

end WritePhase

/-- One step of a writer.  Each step is taken at once. -/
inductive WriteStep (request : WriteRequest) :
    FileTree → WritePhase → FileTree → WritePhase → Prop
  | prepare {tree after : FileTree} {device : Device}
      (ensured : (FileAction.ensureDirectory request.target.parent
        device).run tree = (.ok ⟨⟩, after)) :
      WriteStep request tree .waiting after .prepared
  | notPrepared {tree after : FileTree} {device : Device}
      {failure : FileFailure}
      (ensured : (FileAction.ensureDirectory request.target.parent
        device).run tree = (.error failure, after)) :
      WriteStep request tree .waiting after .failed
  | create {tree after : FileTree} {identity : Nat}
      (made : tree.createNew (request.temporary tree) =
        .ok (identity, after)) :
      WriteStep request tree .prepared after (.opened identity .fresh)
  | encode {tree : FileTree} {identity : Nat} {bytes : List UInt8}
      (encoded : Utf8.encode request.text = .ok bytes) :
      WriteStep request tree (.opened identity .fresh)
        tree (.opened identity (.writing bytes))
  | write {tree : FileTree} {identity : Nat} (chunk rest : List UInt8) :
      WriteStep request tree (.opened identity (.writing (chunk ++ rest)))
        (tree.append identity chunk) (.opened identity (.writing rest))
  | sync {tree : FileTree} {identity : Nat} :
      WriteStep request tree (.opened identity (.writing []))
        tree (.opened identity .synced)
  | rename {tree after : FileTree} {identity : Nat}
      (renamed : tree.rename (request.temporary tree) request.target =
        .ok after) :
      WriteStep request tree (.opened identity .synced) after .returned
  /-- Any step on the open file may fail, the renaming included. -/
  | interrupt {tree : FileTree} {identity : Nat} {stage : WriteStage} :
      WriteStep request tree (.opened identity stage)
        tree (.opened identity .failing)
  | unlink {tree : FileTree} {identity : Nat} :
      WriteStep request tree (.opened identity .failing)
        (tree.remove (request.temporary tree)) .failed
  /-- A writer may fail and leave everything as it is, as it does if its text
  has no encoding. -/
  | giveUp {tree : FileTree} {phase : WritePhase} (atWork : phase.AtWork) :
      WriteStep request tree phase tree .failed
  | crash {tree : FileTree} {phase : WritePhase} (atWork : phase.AtWork) :
      WriteStep request tree phase tree .crashed

/-- A tree with the writers that work on it. -/
structure Writers (Call : Type) where
  tree : FileTree
  phases : Call → WritePhase

namespace Writers

variable {Call : Type} [DecidableEq Call]

/-- One of the writers takes a step. -/
inductive Step (requests : Call → WriteRequest) :
    Writers Call → Writers Call → Prop
  | move {state : Writers Call} (call : Call) {after : FileTree}
      {phase : WritePhase}
      (taken : WriteStep (requests call) state.tree (state.phases call)
        after phase) :
      Step requests state ⟨after, Function.update state.phases call phase⟩

/-- All writers are about to begin. -/
def start (tree : FileTree) : Writers Call :=
  ⟨tree, fun _ => .waiting⟩

/-- Some steps of the writers lead from a tree to a state. -/
def Reachable (requests : Call → WriteRequest) (tree : FileTree)
    (state : Writers Call) : Prop :=
  Relation.ReflTransGen (Step requests) (start tree) state

variable {requests : Call → WriteRequest} {initial : FileTree}

theorem Reachable.move {state : Writers Call} {after : FileTree}
    {phase : WritePhase} (reached : Reachable requests initial state)
    (call : Call)
    (taken : WriteStep (requests call) state.tree (state.phases call) after
      phase) :
    Reachable requests initial
      ⟨after, Function.update state.phases call phase⟩ :=
  reached.tail (.move call taken)

section Alone

open FileAction Stateful

/-- A writer that works alone. -/
def alone (tree : FileTree) (phase : WritePhase) : Writers Unit :=
  ⟨tree, fun _ => phase⟩

variable {request : WriteRequest} {tree : FileTree}

theorem Reachable.move_alone {after : FileTree} {phase next : WritePhase}
    (reached : Reachable (fun _ => request) initial (alone tree phase))
    (taken : WriteStep request tree phase after next) :
    Reachable (fun _ => request) initial (alone after next) := by
  have moved := reached.move () taken
  have only : Function.update (alone tree phase).phases () next =
      fun _ => next := by
    funext call
    exact Function.update_self ..
  rw [only] at moved
  exact moved

theorem createNew_of_leads {path : PathName} {directory : List Text}
    {name : Text} (leads : tree.Leads path directory name)
    (absent : tree.node? (directory ++ [name]) = none) :
    tree.createNew path = .ok (tree.createAt (directory ++ [name])) := by
  rw [FileTree.createNew, leads.find, FileTree.placeAt, absent]
  rfl

/-- A writer whose file is open writes the beginning of its text, and then the
file is removed. -/
theorem Reachable.give_up_alone {identity : Nat} {part : List UInt8}
    (opened : Reachable (fun _ => request) initial
      (alone tree (.opened identity .fresh)))
    (begins : BeginsText request.text part) :
    Reachable (fun _ => request) initial
      (alone ((tree.append identity part).remove
        (request.temporary (tree.append identity part))) .failed) := by
  rcases begins with rfl | ⟨rest, encoded⟩
  · rw [FileTree.append_nil]
    exact (opened.move_alone .interrupt).move_alone .unlink
  · have written := (opened.move_alone (.encode encoded)).move_alone
      (.write part rest)
    exact (written.move_alone .interrupt).move_alone .unlink

/-- Replacing a target by a text is a run of a writer that works alone,
whatever the device makes of its steps. -/
theorem reachable_replaceText (wellFormed : tree.WellFormed)
    (device : Device) (target : PathName) (text : Text) :
    ∃ number, Reachable (fun _ => ⟨target, text, number⟩) tree
      (alone ((replaceText device target text).run tree).2
        (.ofResult ((replaceText device target text).run tree).1)) := by
  have begun : ∀ number, Reachable (fun _ => ⟨target, text, number⟩) tree
      (alone tree .waiting) := fun _ => .refl
  rw [replaceText]
  rcases makeTemporary_cases target wellFormed with
    ⟨failure, base, fails, ensured, -, -⟩ |
      ⟨base, directory, number, ensured, -, -, -, leads, absent, -, makes⟩
  · rw [run_bind_of_error fails]
    subst ensured
    rcases ensured : (ensureDirectory target.parent device).run tree with
      ⟨result, base⟩
    cases result with
    | error failure => exact ⟨0, (begun 0).move_alone (.notPrepared ensured)⟩
    | ok value =>
        have prepared := (begun 0).move_alone (.prepare ensured)
        exact ⟨0, prepared.move_alone (.giveUp trivial)⟩
  · refine ⟨number, ?_⟩
    rw [run_bind_of_ok makes]
    have prepared := (begun number).move_alone (.prepare ensured)
    have opened := prepared.move_alone
      (.create (createNew_of_leads leads absent))
    have fills := fills_fillTemporary device target text
      ((base.absolute target.parent).child
        (temporaryName target.name number), base.nextIdentity)
      (base.createAt (directory ++ [temporaryName target.name number])).2
    generalize ExceptT.run (fillTemporary device target text _) _ = outcome
      at fills ⊢
    cases fills with
    | unencodable => exact opened.move_alone (.giveUp trivial)
    | removed begins => exact opened.give_up_alone begins
    | @moved bytes after encoded renamed =>
        have writing := opened.move_alone (.encode encoded)
        -- All bytes are one chunk.
        rw [← List.append_nil bytes] at writing
        have written := writing.move_alone (.write bytes [])
        exact (written.move_alone .sync).move_alone (.rename renamed)

end Alone

end Writers

end VestingContract
