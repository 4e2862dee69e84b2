import VestingContract.Proofs.File.Places
import VestingContract.Proofs.File.Reading

/-!
# Changes of trees

What the operations on a well-formed tree change.  Making directories adds
directories only, and every operation leaves a well-formed tree.
-/

namespace VestingContract

namespace FileTree

namespace WellFormed

variable {tree : FileTree}

theorem withIdentity (wellFormed : tree.WellFormed) {identity : Nat}
    (larger : tree.nextIdentity ≤ identity) :
    { tree with nextIdentity := identity }.WellFormed where
  inDirectory := wellFormed.inDirectory
  noStepUpward := wellFormed.noStepUpward
  fresh path owner content here :=
    Nat.lt_of_lt_of_le (wellFormed.fresh path owner content here) larger
  workingDirectory := wellFormed.workingDirectory

theorem put (wellFormed : tree.WellFormed) {directory : List Text}
    {name : Text} {node : Node}
    (above : tree.node? directory = some .directory)
    (noStep : name ≠ "..")
    (noDirectory : tree.node? (directory ++ [name]) ≠ some .directory)
    (known : ∀ identity content, node = .file identity content →
      identity < tree.nextIdentity) :
    (tree.put (directory ++ [name]) node).WellFormed := by
  have notRoot : directory ++ [name] ≠ [] := by simp
  have stays : ∀ path, tree.node? path = some .directory →
      (tree.put (directory ++ [name]) node).node? path =
        some .directory := by
    intro path here
    rw [node?_put tree path notRoot, if_neg, here]
    rintro rfl
    exact noDirectory here
  constructor
  · intro other last found here
    apply stays
    rw [node?_put tree _ notRoot] at here
    split at here
    · next same =>
        obtain ⟨rfl, -⟩ := List.append_inj' same rfl
        exact above
    · exact wellFormed.inDirectory other last found here
  · intro path found here
    rw [node?_put tree _ notRoot] at here
    split at here
    · next same =>
        subst same
        have noneAbove := wellFormed.noStepUpward directory _ above
        simp only [List.mem_append, List.mem_singleton, not_or]
        exact ⟨noneAbove, Ne.symm noStep⟩
    · exact wellFormed.noStepUpward path found here
  · intro path identity content here
    rw [node?_put tree _ notRoot] at here
    split at here
    · exact known identity content (Option.some.inj here)
    · exact wellFormed.fresh path identity content here
  · exact stays _ wellFormed.workingDirectory

theorem erase (wellFormed : tree.WellFormed) {path : List Text}
    (noDirectory : tree.node? path ≠ some .directory) :
    (tree.erase path).WellFormed := by
  have notRoot : path ≠ [] := by
    rintro rfl
    exact noDirectory rfl
  constructor
  · intro directory name node here
    rw [node?_erase tree _ notRoot] at here ⊢
    split at here
    · cases here
    · next outside =>
        rw [if_neg]
        · exact wellFormed.inDirectory directory name node here
        · intro below
          exact outside (below.trans (List.prefix_append directory [name]))
  · intro other node here
    rw [node?_erase tree _ notRoot] at here
    split at here
    · cases here
    · exact wellFormed.noStepUpward other node here
  · intro other identity content here
    rw [node?_erase tree _ notRoot] at here
    split at here
    · cases here
    · exact wellFormed.fresh other identity content here
  · change (tree.erase path).node? tree.workingDirectory = _
    rw [node?_erase tree _ notRoot, if_neg]
    · exact wellFormed.workingDirectory
    · intro below
      have same := wellFormed.eq_of_isPrefix noDirectory
        wellFormed.workingDirectory below
      rw [← same] at noDirectory
      exact noDirectory wellFormed.workingDirectory

theorem append (wellFormed : tree.WellFormed) (identity : Nat)
    (bytes : List UInt8) : (tree.append identity bytes).WellFormed := by
  have stays := (tree.keepsDirectories_append identity bytes).directories
  have before : ∀ {path node},
      (tree.append identity bytes).node? path = some node →
        ∃ old, tree.node? path = some old ∧
          old.append identity bytes = node := by
    intro path node here
    rw [node?_append] at here
    exact Option.map_eq_some_iff.mp here
  constructor
  · intro directory name node here
    obtain ⟨old, oldHere, -⟩ := before here
    exact stays _ (wellFormed.inDirectory directory name old oldHere)
  · intro path node here
    obtain ⟨old, oldHere, -⟩ := before here
    exact wellFormed.noStepUpward path old oldHere
  · intro path owner content here
    obtain ⟨old, oldHere, appended⟩ := before here
    cases old with
    | directory => cases appended
    | file oldOwner oldContent =>
        have known := wellFormed.fresh path oldOwner oldContent oldHere
        rw [Node.append] at appended
        split at appended <;> cases appended <;> exact known
  · exact stays _ wellFormed.workingDirectory

theorem createAt (wellFormed : tree.WellFormed) {directory : List Text}
    {name : Text} (above : tree.node? directory = some .directory)
    (noStep : name ≠ "..")
    (absent : tree.node? (directory ++ [name]) = none) :
    (tree.createAt (directory ++ [name])).2.WellFormed := by
  refine (wellFormed.withIdentity (Nat.le_succ tree.nextIdentity)).put above
    noStep ?_ ?_
  · change tree.node? _ ≠ _
    rw [absent]
    simp
  · intro identity content same
    cases same
    exact Nat.lt_succ_self tree.nextIdentity

end WellFormed

theorem node?_createAt (tree : FileTree) {path : List Text}
    (notRoot : path ≠ []) (other : List Text) :
    (tree.createAt path).2.node? other =
      if other = path then some (.file tree.nextIdentity [])
      else tree.node? other :=
  node?_put { tree with nextIdentity := tree.nextIdentity + 1 } other notRoot _

/-- Some directories have been added and nothing else has changed. -/
structure OnlyDirectories (tree after : FileTree) : Prop where
  nodes : ∀ path, after.node? path = tree.node? path ∨
    tree.node? path = none ∧ after.node? path = some .directory
  nextIdentity : after.nextIdentity = tree.nextIdentity
  workingDirectory : after.workingDirectory = tree.workingDirectory

namespace OnlyDirectories

variable {first second third tree after : FileTree}

theorem refl (tree : FileTree) : tree.OnlyDirectories tree :=
  ⟨fun _ => .inl rfl, rfl, rfl⟩

theorem trans (before : first.OnlyDirectories second)
    (later : second.OnlyDirectories third) :
    first.OnlyDirectories third := by
  refine ⟨fun path => ?_, later.nextIdentity.trans before.nextIdentity,
    later.workingDirectory.trans before.workingDirectory⟩
  rcases before.nodes path with same | ⟨absent, added⟩
  · rw [← same]
    exact later.nodes path
  · rcases later.nodes path with same | ⟨absentLater, -⟩
    · exact .inr ⟨absent, same.trans added⟩
    · rw [added] at absentLater
      cases absentLater

theorem keepsDirectories (only : tree.OnlyDirectories after) :
    tree.KeepsDirectories after := by
  refine ⟨fun path here => ?_, only.workingDirectory⟩
  rcases only.nodes path with same | ⟨-, added⟩
  · rw [same, here]
  · exact added

theorem node?_file_iff (only : tree.OnlyDirectories after)
    {path : List Text} {identity : Nat} {content : List UInt8} :
    after.node? path = some (.file identity content) ↔
      tree.node? path = some (.file identity content) := by
  rcases only.nodes path with same | ⟨absent, added⟩
  · rw [same]
  · rw [absent, added]
    simp

end OnlyDirectories

/-- Some directories have been added at places that the beginnings of a path
spell, and nothing else has changed. -/
structure OnlyAlong (path : PathName) (tree after : FileTree) : Prop
    extends tree.OnlyDirectories after where
  along : ∀ place, after.node? place ≠ tree.node? place →
    tree.LiesOn path place

/-- A directory is one that was there before, or it is above a path. -/
theorem OnlyAlong.node?_directory {path : PathName} {tree after : FileTree}
    (only : tree.OnlyAlong path after) {place : List Text}
    (here : after.node? place = some .directory) :
    tree.node? place = some .directory ∨ tree.LiesOn path place := by
  by_cases same : after.node? place = tree.node? place
  · exact .inl (same ▸ here)
  · exact .inr (only.along place same)

/-- From a well-formed tree, directories along a path are added to a
well-formed tree, and nothing else is changed. -/
def AddsAlong (path : PathName) (tree after : FileTree) : Prop :=
  tree.WellFormed → after.WellFormed ∧ tree.OnlyAlong path after

section AddsAlong

variable {path : PathName}

theorem AddsAlong.refl (tree : FileTree) : tree.AddsAlong path tree :=
  fun wellFormed => ⟨wellFormed, .refl tree, fun _ changed =>
    absurd rfl changed⟩

theorem AddsAlong.trans ⦃first second third : FileTree⦄
    (before : first.AddsAlong path second)
    (later : second.AddsAlong path third) : first.AddsAlong path third := by
  intro wellFormed
  obtain ⟨wellFormedSecond, onlyBefore⟩ := before wellFormed
  obtain ⟨wellFormedThird, onlyLater⟩ := later wellFormedSecond
  refine ⟨wellFormedThird,
    onlyBefore.toOnlyDirectories.trans onlyLater.toOnlyDirectories,
    fun place changed => ?_⟩
  by_cases same : third.node? place = second.node? place
  · exact onlyBefore.along place (same ▸ changed)
  · exact (liesOn_congr onlyBefore.workingDirectory path place).mp
      (onlyLater.along place same)

theorem AddsAlong.of_append {slashes : Nat} {above rest : List Text}
    {tree after : FileTree} (adds : tree.AddsAlong ⟨slashes, above⟩ after) :
    tree.AddsAlong ⟨slashes, above ++ rest⟩ after := by
  intro wellFormed
  obtain ⟨wellFormedAfter, only⟩ := adds wellFormed
  exact ⟨wellFormedAfter, only.toOnlyDirectories,
    fun place changed => (only.along place changed).of_append⟩

theorem addsAlong_makeDirectory {tree after : FileTree}
    (made : tree.makeDirectory path = .ok after) :
    tree.AddsAlong path after := by
  intro wellFormed
  unfold makeDirectory at made
  cases found : tree.find path with
  | error error =>
      rw [found] at made
      cases made
  | ok place =>
      rw [found] at made
      cases place with
      | present => cases made
      | free directory name =>
          cases made
          obtain ⟨leads, absent⟩ := wellFormed.exists_leads_of_free found
          have spelled : directory ++ [name] = (tree.absolute path).names :=
            wellFormed.path_eq_absolute found
          have nodes : ∀ other,
              (tree.put (directory ++ [name]) .directory).node? other =
                if other = directory ++ [name] then some .directory
                else tree.node? other :=
            fun other => node?_put tree other (by simp) .directory
          refine ⟨wellFormed.put leads.node?_directory leads.noStep
            (by rw [absent]; simp) (by simp),
            ⟨fun other => ?_, rfl, rfl⟩, fun other changed => ?_⟩
          · rw [nodes]
            split
            · next same =>
                rw [same]
                exact .inr ⟨absent, rfl⟩
            · exact .inl rfl
          · rw [nodes] at changed
            split at changed
            · next same =>
                rw [same, spelled]
                exact tree.liesOn_absolute path
            · exact absurd rfl changed

end AddsAlong

/-- The files of a tree are the files of another one, log files apart, and
all directories are still there. -/
structure SameFilesBut (isLog : Nat → Prop) (tree after : FileTree) :
    Prop where
  wellFormed : after.WellFormed
  directories : tree.KeepsDirectories after
  later : tree.nextIdentity ≤ after.nextIdentity
  known : ∀ identity, isLog identity → identity < after.nextIdentity
  files : ∀ path identity content, ¬ isLog identity →
    (after.node? path = some (.file identity content) ↔
      tree.node? path = some (.file identity content))

namespace SameFilesBut

variable {isLog others : Nat → Prop} {first second third tree : FileTree}

theorem refl (wellFormed : tree.WellFormed)
    (known : ∀ identity, isLog identity → identity < tree.nextIdentity) :
    tree.SameFilesBut isLog tree :=
  ⟨wellFormed, ⟨fun _ here => here, rfl⟩, Nat.le_refl _, known,
    fun _ _ _ _ => Iff.rfl⟩

theorem trans {either : Nat → Prop}
    (before : first.SameFilesBut isLog second)
    (after : second.SameFilesBut others third)
    (isEither : ∀ identity,
      either identity ↔ isLog identity ∨ others identity) :
    first.SameFilesBut either third := by
  refine ⟨after.wellFormed, before.directories.trans after.directories,
    Nat.le_trans before.later after.later, fun identity isKnown => ?_, ?_⟩
  · rcases (isEither identity).mp isKnown with isLog | isOther
    · exact Nat.lt_of_lt_of_le (before.known identity isLog) after.later
    · exact after.known identity isOther
  · intro path identity content apart
    rw [isEither, not_or] at apart
    rw [after.files path identity content apart.2]
    exact before.files path identity content apart.1

theorem of_onlyDirectories {after : FileTree} (wellFormed : after.WellFormed)
    (only : tree.OnlyDirectories after) :
    tree.SameFilesBut (fun _ => False) after :=
  ⟨wellFormed, only.keepsDirectories, Nat.le_of_eq only.nextIdentity.symm,
    fun _ isLog => isLog.elim, fun _ _ _ _ => only.node?_file_iff⟩

theorem append (same : first.SameFilesBut isLog second) {identity : Nat}
    (known : isLog identity) (bytes : List UInt8) :
    first.SameFilesBut isLog (second.append identity bytes) := by
  refine ⟨same.wellFormed.append identity bytes,
    same.directories.trans (keepsDirectories_append second identity bytes),
    same.later, same.known, ?_⟩
  intro path owner content apart
  have other : owner ≠ identity := by
    rintro rfl
    exact apart known
  rw [second.node?_append_file_iff other, same.files path owner content apart]

end SameFilesBut

end FileTree

namespace FileAction

open Stateful

section Operations

variable {α : Type} (path : PathName) (tree : FileTree)

theorem run_ofChange
    (operation : FileTree → Except SystemError FileTree) :
    (ofChange path operation).run tree =
      match lookedUp path (operation tree) with
      | .ok after => (.ok ⟨⟩, after)
      | .error failure => (.error failure, tree) := by
  have looked := run_ofRead path operation tree
  cases found : lookedUp path (operation tree) with
  | ok after =>
      rw [found] at looked
      rw [ofChange, run_bind_of_ok looked]
      rfl
  | error failure =>
      rw [found] at looked
      rw [ofChange, run_bind_of_error looked]

theorem run_ofUpdate
    (operation : FileTree → Except SystemError (α × FileTree)) :
    (ofUpdate path operation).run tree =
      match lookedUp path (operation tree) with
      | .ok (value, after) => (.ok value, after)
      | .error failure => (.error failure, tree) := by
  have looked := run_ofRead path operation tree
  cases found : lookedUp path (operation tree) with
  | ok update =>
      rw [found] at looked
      rw [ofUpdate, run_bind_of_ok looked]
      rfl
  | error failure =>
      rw [found] at looked
      rw [ofUpdate, run_bind_of_error looked]

/-- What is found behind a valid path is what the operation finds. -/
theorem of_lookedUp_eq_ok {found : Except SystemError α} {value : α}
    (looked : lookedUp path found = .ok value) : found = .ok value := by
  unfold lookedUp at looked
  split at looked
  · cases looked
  · cases found with
    | ok other =>
        cases looked
        rfl
    | error error => cases looked

theorem check_of_lookedUp_eq_ok {found : Except SystemError α} {value : α}
    (looked : lookedUp path found = .ok value) :
    PathName.check path.toText = .ok () := by
  unfold lookedUp at looked
  split at looked
  · cases looked
  · assumption

theorem run_isDirectory_tree : ((isDirectory path).run tree).2 = tree := by
  have looked := run_node? path tree
  cases found : seen path tree with
  | ok node =>
      rw [found] at looked
      rw [isDirectory, run_bind_of_ok looked]
      split <;> rfl
  | error failure =>
      rw [found] at looked
      rw [isDirectory, run_bind_of_error looked]

end Operations

section Directories

open FileTree

variable (path : PathName) (device : Device)

theorem addsAlong_makeOne :
    Relates (AddsAlong path) (makeDirectory path device) := by
  intro tree
  rw [makeDirectory, run_ofChange]
  split
  · next after looked =>
      have made := of_lookedUp_eq_ok path looked
      exact addsAlong_makeDirectory (Device.unlessRefused_eq_ok_iff.mp made).1
  · exact .refl tree

theorem addsAlong_throw {α : Type} (failure : FileFailure) :
    Relates (AddsAlong path) (throw failure : FileAction α) :=
  .of_eq AddsAlong.refl fun _ => rfl

theorem addsAlong_ensureOne :
    Relates (AddsAlong path) (ensureOne path device) := by
  apply Relates.tryCatch AddsAlong.trans (addsAlong_makeOne path device)
  intro failure
  split
  · exact addsAlong_throw path failure
  · exact addsAlong_throw path failure
  · apply Relates.bind AddsAlong.trans
    · exact .of_eq AddsAlong.refl (run_isDirectory_tree path)
    · intro isThere
      cases isThere with
      | false => exact addsAlong_throw path failure
      | true => exact .of_eq AddsAlong.refl fun _ => rfl

theorem addsAlong_ensureReversed (slashes : Nat) (names : List Text) :
    Relates (AddsAlong ⟨slashes, names.reverse⟩)
      (ensureReversed device slashes names) := by
  induction names with
  | nil => exact addsAlong_ensureOne _ _
  | cons last above ih =>
      rw [ensureReversed]
      apply Relates.tryCatch AddsAlong.trans (addsAlong_ensureOne _ _)
      intro failure
      have ensuresAbove : Relates (AddsAlong ⟨slashes, (last :: above).reverse⟩)
          (ensureReversed device slashes above) := by
        intro tree
        rw [List.reverse_cons]
        exact (ih tree).of_append
      split
      · exact .bind AddsAlong.trans ensuresAbove fun _ =>
          addsAlong_ensureOne _ _
      · exact addsAlong_throw _ failure

/-- Making a directory with those above it changes nothing else, whether it
succeeds or not. -/
theorem addsAlong_ensureDirectory :
    Relates (AddsAlong path) (ensureDirectory path device) := by
  have adds := addsAlong_ensureReversed device path.slashes path.names.reverse
  rw [List.reverse_reverse] at adds
  exact adds

/-- Making a directory with those above it changes no file, whether it
succeeds or not. -/
theorem onlyDirectories_ensureDirectory (tree : FileTree)
    (wellFormed : tree.WellFormed) :
    ((ensureDirectory path device).run tree).2.WellFormed ∧
      tree.OnlyDirectories ((ensureDirectory path device).run tree).2 := by
  obtain ⟨wellFormedAfter, only⟩ :=
    addsAlong_ensureDirectory path device tree wellFormed
  exact ⟨wellFormedAfter, only.toOnlyDirectories⟩

end Directories

end FileAction

end VestingContract
