import VestingContract.Proofs.File.Ownership
import VestingContract.Proofs.File.Writers

/-!
# Steps of concurrent writers

The steps of any number of writers are taken in any order, and whoever of them
fails or stops, every open temporary file belongs to its writer: nobody else
changes it, and it stands nowhere else until it is complete.
-/

namespace VestingContract

open FileTree

/-- What a writer has put into its temporary file at a stage. -/
def WriteStage.Fits (text : Text) (content : List UInt8) : WriteStage → Prop
  | fresh => content = []
  | writing rest => Utf8.encode text = .ok (content ++ rest)
  | synced => Utf8.encode text = .ok content
  | failing => True

namespace WritePhase

/-- The identity of the open temporary file. -/
def identity? : WritePhase → Option Nat
  | opened identity _ => some identity
  | _ => none

/-- A writer changes its open file and files that are not there yet. -/
def MayChange (phase : WritePhase) (tree : FileTree) (identity : Nat) :
    Prop :=
  phase.identity? = some identity ∨ tree.nextIdentity ≤ identity

theorem not_mayChange {phase : WritePhase} {tree : FileTree} {identity : Nat}
    (known : identity < tree.nextIdentity)
    (notOpen : phase.identity? ≠ some identity) :
    ¬ phase.MayChange tree identity := by
  rintro (isOpen | isNew)
  · exact notOpen isOpen
  · omega

end WritePhase

namespace WriteRequest

section Places

variable {tree after : FileTree} (kept : tree.KeepsDirectories after)
  (request : WriteRequest)

include kept

theorem place_of_keepsDirectories :
    request.place after = request.place tree := by
  rw [place, place, kept.absolute_eq]

theorem temporary_of_keepsDirectories :
    request.temporary after = request.temporary tree := by
  rw [temporary, temporary, kept.absolute_eq]

theorem temporaryPlace_of_keepsDirectories :
    request.temporaryPlace after = request.temporaryPlace tree := by
  rw [temporaryPlace, temporaryPlace, temporary_of_keepsDirectories kept]

end Places

/-- The temporary file belongs to its writer and holds what has been
written. -/
structure Holds (request : WriteRequest) (tree : FileTree) (identity : Nat)
    (stage : WriteStage) : Prop where
  leads : tree.Leads (request.temporary tree)
    (tree.absolute request.target.parent).names
    (FileAction.temporaryName request.target.name request.number)
  owned : ∃ content,
    tree.Owns (request.temporaryPlace tree) identity content ∧
      stage.Fits request.text content

/-- What a tree says about a writer at a phase. -/
def Sound (request : WriteRequest) (tree : FileTree) : WritePhase → Prop
  | .opened identity stage => request.Holds tree identity stage
  | .returned => ∃ directory name,
      tree.Leads request.target directory name ∧
        directory ++ [name] = request.place tree
  | _ => True

/-- The step to a phase puts a file in the place of the target. -/
def Replaces (request : WriteRequest) (tree : FileTree) (next : WritePhase)
    (path : List Text) : Prop :=
  next = .returned ∧ path = request.place tree

/-- What a writer changes by a step that it takes. -/
structure Advances (request : WriteRequest) (tree : FileTree)
    (phase : WritePhase) (after : FileTree) (next : WritePhase) : Prop where
  atWork : phase.AtWork
  change : tree.ChangesOwn (phase.MayChange tree)
    (request.temporaryPlace tree) (request.Replaces tree next) after
  sound : request.Sound after next
  identity : ∀ identity, next.identity? = some identity →
    phase.MayChange tree identity
  delivered : next = .returned → ∃ content,
    Utf8.encode request.text = .ok content ∧
      after.content? (request.place tree) = some content

section Steps

variable {request : WriteRequest} {tree after : FileTree}
  {phase next : WritePhase} {identity : Nat} {stage : WriteStage}

/-- A step that changes no file and does not end the work. -/
theorem Advances.of_onlyDirectories (atWork : phase.AtWork)
    (wellFormed : after.WellFormed) (only : tree.OnlyDirectories after)
    (unfinished : next ≠ .returned) (sound : request.Sound after next)
    (sameFile : next.identity? = none ∨ next.identity? = phase.identity?) :
    request.Advances tree phase after next where
  atWork := atWork
  change := .of_onlyDirectories wellFormed only
  sound := sound
  identity identity isNext := by
    rcases sameFile with noFile | sameFile
    · rw [noFile] at isNext
      cases isNext
    · exact .inl (sameFile ▸ isNext)
  delivered isReturned := absurd isReturned unfinished

theorem Advances.refl (atWork : phase.AtWork) (wellFormed : tree.WellFormed)
    (unfinished : next ≠ .returned) (sound : request.Sound tree next)
    (sameFile : next.identity? = none ∨ next.identity? = phase.identity?) :
    request.Advances tree phase tree next :=
  .of_onlyDirectories atWork wellFormed (.refl tree) unfinished sound sameFile

variable (wellFormed : tree.WellFormed)

include wellFormed

theorem advances_create (made : tree.createNew (request.temporary tree) =
      .ok (identity, after)) :
    request.Advances tree .prepared after (.opened identity .fresh) := by
  obtain ⟨directory, leads, absent, updateEq⟩ :=
    FileAction.exists_leads_of_createNew wellFormed made
  have nameEq : (request.temporary tree).name =
      FileAction.temporaryName request.target.name request.number := by
    simp [temporary, PathName.name, PathName.child]
  rw [nameEq] at leads absent updateEq
  obtain rfl := FileAction.directory_of_temporary wellFormed request.target
    leads
  obtain ⟨rfl, rfl⟩ := Prod.mk.inj updateEq
  have change : tree.ChangesOwn (WritePhase.prepared.MayChange tree)
      (request.temporaryPlace tree)
      (request.Replaces tree (.opened tree.nextIdentity .fresh)) _ :=
    changesOwn_createAt wellFormed leads absent (.inr (Nat.le_refl _))
  refine ⟨trivial, change, ⟨?_, [], ?_, rfl⟩, ?_, fun isReturned => ?_⟩
  · exact leads.of_keepsDirectories change.directories
  · exact owns_createAt wellFormed
  · intro identity isNext
    exact .inr (Nat.le_of_eq (Option.some.inj isNext))
  · cases isReturned

variable (holds : request.Holds tree identity stage)

include holds

theorem advances_write {chunk rest : List UInt8}
    (writes : stage = .writing (chunk ++ rest)) :
    request.Advances tree (.opened identity stage)
      (tree.append identity chunk) (.opened identity (.writing rest)) := by
  subst writes
  obtain ⟨content, owns, encoded⟩ := holds.owned
  have change : tree.ChangesOwn
      ((WritePhase.opened identity (.writing (chunk ++ rest))).MayChange tree)
      (request.temporaryPlace tree)
      (request.Replaces tree (.opened identity (.writing rest))) _ :=
    changesOwn_append wellFormed owns (.inl rfl) chunk
  refine ⟨trivial, change, ⟨?_, content ++ chunk, ?_, ?_⟩,
    fun _ isNext => .inl isNext, fun isReturned => ?_⟩
  · exact holds.leads.of_keepsDirectories change.directories
  · exact owns.append chunk
  · rw [WriteStage.Fits, List.append_assoc]
    exact encoded
  · cases isReturned

theorem advances_rename (isSynced : stage = .synced)
    (renamed : tree.rename (request.temporary tree) request.target =
      .ok after) :
    request.Advances tree (.opened identity stage) after .returned := by
  subst isSynced
  obtain ⟨content, owns, encoded⟩ := holds.owned
  have different :=
    FileAction.temporaryName_ne request.target.name request.number
  obtain ⟨change, ⟨above, last, leads, placeEq⟩, here⟩ :
      tree.ChangesOwn ((WritePhase.opened identity .synced).MayChange tree)
        (request.temporaryPlace tree) (request.Replaces tree .returned) after ∧
      _ ∧ _ :=
    changesOwn_rename wellFormed owns holds.leads rfl (.inl rfl) different
      ⟨rfl, rfl⟩ renamed
  refine ⟨trivial, change, ⟨above, last, leads, ?_⟩, fun _ isNext => ?_,
    fun _ => ⟨content, encoded, here⟩⟩
  · rw [placeEq, place_of_keepsDirectories change.directories]
    rfl
  · cases isNext

theorem advances_unlink :
    request.Advances tree (.opened identity stage)
      (tree.remove (request.temporary tree)) .failed := by
  obtain ⟨content, owns, -⟩ := holds.owned
  refine ⟨trivial, ?_, trivial, fun _ isNext => ?_, fun isReturned => ?_⟩
  · exact changesOwn_remove wellFormed owns holds.leads rfl (.inl rfl)
  · cases isNext
  · cases isReturned

omit holds

/-- Every step of a writer advances its work and leaves other files alone. -/
theorem advances_of_writeStep (sound : request.Sound tree phase)
    (taken : WriteStep request tree phase after next) :
    request.Advances tree phase after next := by
  have ensures : ∀ {device result base},
      (FileAction.ensureDirectory request.target.parent device).run tree =
        (result, base) → base.WellFormed ∧ tree.OnlyDirectories base := by
    intro device result base ensured
    have added := FileAction.onlyDirectories_ensureDirectory
      request.target.parent device tree wellFormed
    rw [ensured] at added
    exact added
  cases taken with
  | prepare ensured =>
      obtain ⟨wellFormedAfter, only⟩ := ensures ensured
      exact .of_onlyDirectories trivial wellFormedAfter only nofun trivial
        (.inl rfl)
  | notPrepared ensured =>
      obtain ⟨wellFormedAfter, only⟩ := ensures ensured
      exact .of_onlyDirectories trivial wellFormedAfter only nofun trivial
        (.inl rfl)
  | create made => exact advances_create wellFormed made
  | encode encoded =>
      obtain ⟨leads, content, owns, rfl⟩ := sound
      exact .refl trivial wellFormed nofun ⟨leads, [], owns, encoded⟩
        (.inr rfl)
  | write chunk rest => exact advances_write wellFormed sound rfl
  | sync =>
      obtain ⟨leads, content, owns, encoded⟩ := sound
      rw [WriteStage.Fits, List.append_nil] at encoded
      exact .refl trivial wellFormed nofun ⟨leads, content, owns, encoded⟩
        (.inr rfl)
  | rename renamed => exact advances_rename wellFormed sound rfl renamed
  | interrupt =>
      obtain ⟨leads, content, owns, -⟩ := sound
      exact .refl trivial wellFormed nofun ⟨leads, content, owns, trivial⟩
        (.inr rfl)
  | unlink => exact advances_unlink wellFormed sound
  | giveUp atWork => exact .refl atWork wellFormed nofun trivial (.inl rfl)
  | crash atWork => exact .refl atWork wellFormed nofun trivial (.inl rfl)

/-- An open file is in the tree, so nobody creates it again. -/
theorem Sound.known (sound : request.Sound tree phase)
    (isOpen : phase.identity? = some identity) :
    identity < tree.nextIdentity := by
  cases phase with
  | opened owner stage =>
      cases isOpen
      obtain ⟨-, content, owns, -⟩ := sound
      exact wellFormed.fresh _ _ content owns.here
  | _ => cases isOpen

theorem Sound.of_advances {other : WriteRequest} {otherPhase : WritePhase}
    (sound : other.Sound tree otherPhase)
    (advances : request.Advances tree phase after next)
    (distinct : ∀ identity, otherPhase.identity? = some identity →
      phase.identity? ≠ some identity)
    (apart : request.place tree ≠ other.temporaryPlace tree) :
    other.Sound after otherPhase := by
  have kept := advances.change.directories
  cases otherPhase with
  | opened identity stage =>
      have notMine := WritePhase.not_mayChange (sound.known wellFormed rfl)
        (distinct identity rfl)
      obtain ⟨leads, content, owns, fits⟩ := sound
      have ownsAfter := owns.of_changesOwn advances.change notMine
        fun replaced => apart replaced.2.symm
      refine ⟨?_, content, ?_, fits⟩
      · rw [temporary_of_keepsDirectories kept, kept.absolute_eq]
        exact leads.of_keepsDirectories kept
      · rwa [temporaryPlace_of_keepsDirectories kept]
  | returned =>
      obtain ⟨directory, name, leads, placeEq⟩ := sound
      refine ⟨directory, name, leads.of_keepsDirectories kept, ?_⟩
      rw [placeEq, place_of_keepsDirectories kept]
  | _ => trivial

end Steps

end WriteRequest

namespace Writers

variable {Call : Type} (requests : Call → WriteRequest) (initial : FileTree)

/-- A place has its first content and none of its writers has returned, or it
has the text of one that has. -/
def Settled (state : Writers Call) (place : List Text) : Prop :=
  (state.tree.content? place = initial.content? place ∧
    ∀ call, (requests call).place initial = place →
      state.phases call ≠ .returned) ∨
  ∃ writer content, state.phases writer = .returned ∧
    (requests writer).place initial = place ∧
    Utf8.encode (requests writer).text = .ok content ∧
    state.tree.content? place = some content

/-- What holds in every state that the writers reach. -/
structure Invariant (state : Writers Call) : Prop where
  wellFormed : state.tree.WellFormed
  directories : initial.KeepsDirectories state.tree
  sound : ∀ call, (requests call).Sound state.tree (state.phases call)
  distinct : ∀ call other identity,
    (state.phases call).identity? = some identity →
      (state.phases other).identity? = some identity → call = other
  settled : ∀ place,
    (∀ call, place ≠ (requests call).temporaryPlace initial) →
      Settled requests initial state place

variable {requests initial} {state : Writers Call}

theorem invariant_start (wellFormed : initial.WellFormed) :
    Invariant requests initial (start initial) where
  wellFormed := wellFormed
  directories := ⟨fun _ here => here, rfl⟩
  sound _ := trivial
  distinct _ _ _ opened := nomatch opened
  settled _ _ := .inl ⟨rfl, fun _ _ => nofun⟩

section Moves

variable [DecidableEq Call] {call : Call} {after : FileTree} {next : WritePhase}
  (holds : Invariant requests initial state)
  (advances : (requests call).Advances state.tree (state.phases call) after
    next)

include holds advances

/-- No two writers have the same file open. -/
theorem Invariant.distinct_move (first second : Call) (identity : Nat)
    (isFirst : (Function.update state.phases call next first).identity? =
      some identity)
    (isSecond : (Function.update state.phases call next second).identity? =
      some identity) : first = second := by
  have other : ∀ {writer}, writer ≠ call →
      (state.phases writer).identity? = some identity →
        ¬ (state.phases call).MayChange state.tree identity := by
    intro writer different isOpen
    have known := (holds.sound writer).known holds.wellFormed isOpen
    exact WritePhase.not_mayChange known fun same =>
      different (holds.distinct writer call identity isOpen same)
  by_cases firstMoves : first = call <;> by_cases secondMoves : second = call
  · rw [firstMoves, secondMoves]
  · rw [firstMoves, Function.update_self] at isFirst
    rw [Function.update_of_ne secondMoves] at isSecond
    exact absurd (advances.identity identity isFirst)
      (other secondMoves isSecond)
  · rw [secondMoves, Function.update_self] at isSecond
    rw [Function.update_of_ne firstMoves] at isFirst
    exact absurd (advances.identity identity isSecond)
      (other firstMoves isFirst)
  · rw [Function.update_of_ne firstMoves] at isFirst
    rw [Function.update_of_ne secondMoves] at isSecond
    exact holds.distinct first second identity isFirst isSecond

theorem Invariant.settled_move {place : List Text}
    (noTemporary : ∀ call, place ≠ (requests call).temporaryPlace initial) :
    Settled requests initial
      ⟨after, Function.update state.phases call next⟩ place := by
  have placeEq : (requests call).place state.tree =
      (requests call).place initial :=
    WriteRequest.place_of_keepsDirectories holds.directories _
  have elsewhere : place ≠ (requests call).temporaryPlace state.tree := by
    rw [WriteRequest.temporaryPlace_of_keepsDirectories holds.directories]
    exact noTemporary call
  -- Only a step that returns is seen at a place that is nobody's temporary.
  by_cases delivers : (requests call).Replaces initial next place
  · obtain ⟨isReturned, isPlace⟩ := delivers
    obtain ⟨content, encoded, here⟩ := advances.delivered isReturned
    refine .inr ⟨call, content, ?_, isPlace.symm, encoded, ?_⟩
    · exact (Function.update_self ..).trans isReturned
    · rw [isPlace, ← placeEq]
      exact here
  · have same : after.content? place = state.tree.content? place := by
      apply advances.change.same place elsewhere
      rwa [WriteRequest.Replaces, placeEq]
    rcases holds.settled place noTemporary with
      ⟨first, waiting⟩ | ⟨writer, content, returned, isPlace, encoded, here⟩
    · refine .inl ⟨same.trans first, fun writer isPlace => ?_⟩
      by_cases moves : writer = call
      · subst moves
        simp only [Function.update_self]
        exact fun isReturned => delivers ⟨isReturned, isPlace.symm⟩
      · simp only [Function.update_of_ne moves]
        exact waiting writer isPlace
    · refine .inr ⟨writer, content, ?_, isPlace, encoded, same.trans here⟩
      have different : writer ≠ call := by
        rintro rfl
        have atWork := advances.atWork
        rw [returned] at atWork
        exact atWork
      exact (Function.update_of_ne different ..).trans returned

end Moves

section Runs

variable [DecidableEq Call] (apart : ∀ call other,
  (requests call).place initial ≠ (requests other).temporaryPlace initial)

include apart

/-- Every step of a writer keeps the invariant. -/
theorem Invariant.step {next : Writers Call}
    (holds : Invariant requests initial state)
    (taken : Step requests state next) : Invariant requests initial next := by
  obtain ⟨call, taken⟩ := taken
  have advances := WriteRequest.advances_of_writeStep holds.wellFormed
    (holds.sound call) taken
  refine ⟨advances.change.wellFormed,
    holds.directories.trans advances.change.directories, fun other => ?_,
    holds.distinct_move advances, fun place => holds.settled_move advances⟩
  by_cases moves : other = call
  · subst moves
    simp only [Function.update_self]
    exact advances.sound
  · simp only [Function.update_of_ne moves]
    apply (holds.sound other).of_advances holds.wellFormed advances
    · intro identity isOther isCall
      exact moves (holds.distinct other call identity isOther isCall)
    · rw [WriteRequest.place_of_keepsDirectories holds.directories,
        WriteRequest.temporaryPlace_of_keepsDirectories holds.directories]
      exact apart call other

theorem invariant_of_reachable (wellFormed : initial.WellFormed)
    (reached : Reachable requests initial state) :
    Invariant requests initial state := by
  induction reached with
  | refl => exact invariant_start wellFormed
  | tail _ taken ih => exact ih.step apart taken

end Runs

end Writers

end VestingContract
