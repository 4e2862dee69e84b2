import VestingContract.Proofs.File.Ownership

/-!
# Files that grow

A file that is opened for additions keeps its content, and bytes are only
added behind it.  After any number of additions every file is its content of
the beginning with its own additions behind it, in order.
-/

namespace VestingContract

namespace FileTree

section Opening

variable {tree after : FileTree} {path : PathName} {identity : Nat}

/-- A file that is opened for additions was there before or is new. -/
theorem openToAppend_cases (wellFormed : tree.WellFormed)
    (opened : tree.openToAppend path = .ok (identity, after)) :
    (after = tree ∧ ∃ place content,
      tree.find path = .ok (.present place (.file identity content))) ∨
    ∃ directory name, tree.Leads path directory name ∧
      tree.node? (directory ++ [name]) = none ∧
      identity = tree.nextIdentity ∧
      after = tree.withFile (directory ++ [name]) [] := by
  unfold openToAppend at opened
  cases found : tree.find path with
  | error error =>
      rw [found] at opened
      cases opened
  | ok end_ =>
      rw [found] at opened
      cases end_ with
      | present place node =>
          cases node with
          | directory => cases opened
          | file owner content =>
              cases opened
              exact .inl ⟨rfl, place, content, rfl⟩
      | free directory name =>
          cases opened
          obtain ⟨leads, absent⟩ := wellFormed.exists_leads_of_free found
          exact .inr ⟨directory, name, leads, absent, rfl,
            (withFile_nil tree _).symm⟩

end Opening

/-- The identity of the file at a path, if there is one. -/
def identity? (tree : FileTree) (path : List Text) : Option Nat :=
  match tree.node? path with
  | some (.file identity _) => some identity
  | _ => none

section Identities

variable {tree after : FileTree} {path : List Text} {identity : Nat}

theorem identity?_eq_some_iff :
    tree.identity? path = some identity ↔
      ∃ content, tree.node? path = some (.file identity content) := by
  unfold identity?
  split
  · next owner content here => simp [here]
  · next noFile =>
      simp only [reduceCtorEq, false_iff, not_exists]
      exact fun content here => noFile identity content here

@[simp]
theorem identity?_append (owner : Nat) (bytes : List UInt8) :
    (tree.append owner bytes).identity? path = tree.identity? path := by
  unfold identity?
  rw [node?_append]
  cases tree.node? path with
  | none => rfl
  | some node =>
      cases node with
      | directory => rfl
      | file other content =>
          by_cases owns : other = owner <;>
            simp [Node.append, owns]

end Identities

/-- The bytes that additions at places put behind the file of an identity. -/
def addedAt (tree : FileTree) (identity : Nat)
    (additions : List (List Text × List UInt8)) : List UInt8 :=
  (additions.filter fun addition =>
    tree.identity? addition.1 = some identity).flatMap Prod.snd

/-- Every file that was there at the beginning is still there, and every file
is its content of the beginning with its additions behind it, in order. -/
structure HasGrown (start : FileTree)
    (additions : List (List Text × List UInt8)) (tree : FileTree) :
    Prop where
  wellFormed : tree.WellFormed
  directories : start.KeepsDirectories tree
  kept : ∀ place identity, start.identity? place = some identity →
    tree.identity? place = some identity
  opened : ∀ addition ∈ additions,
    ∃ identity, tree.identity? addition.1 = some identity
  contents : ∀ place identity content,
    tree.node? place = some (.file identity content) →
      content = (start.content? place).getD [] ++
        tree.addedAt identity additions

namespace HasGrown

variable {start tree after : FileTree}
  {additions : List (List Text × List UInt8)}

theorem refl (wellFormed : tree.WellFormed) : tree.HasGrown [] tree := by
  refine ⟨wellFormed, ⟨fun _ here => here, rfl⟩, fun _ _ here => here,
    by simp, fun place identity content here => ?_⟩
  have there : tree.content? place = some content :=
    content?_eq_some_iff.mpr ⟨identity, here⟩
  simp [there, addedAt]

/-- A change that keeps all files where they are, with their contents, and
adds directories and empty files of new identities only. -/
theorem of_added (grown : start.HasGrown additions tree)
    (wellFormed : after.WellFormed)
    (directories : tree.KeepsDirectories after)
    (kept : ∀ place identity content,
      tree.node? place = some (.file identity content) →
        after.node? place = some (.file identity content))
    (added : ∀ place identity content,
      after.node? place = some (.file identity content) →
        tree.node? place = some (.file identity content) ∨
          tree.node? place = none ∧ content = [] ∧
            identity = tree.nextIdentity) :
    start.HasGrown additions after := by
  have stays : ∀ place identity, tree.identity? place = some identity →
      after.identity? place = some identity := by
    intro place identity here
    obtain ⟨content, there⟩ := identity?_eq_some_iff.mp here
    exact identity?_eq_some_iff.mpr ⟨content, kept _ _ _ there⟩
  have sameBytes : ∀ identity,
      after.addedAt identity additions = tree.addedAt identity additions := by
    intro identity
    rw [addedAt, addedAt]
    congr 1
    refine List.filter_congr fun addition member => ?_
    obtain ⟨owner, there⟩ := grown.opened addition member
    rw [there, stays _ _ there]
  refine ⟨wellFormed, grown.directories.trans directories, ?_, ?_, ?_⟩
  · intro place identity here
    exact stays _ _ (grown.kept place identity here)
  · intro addition member
    obtain ⟨owner, there⟩ := grown.opened addition member
    exact ⟨owner, stays _ _ there⟩
  · intro place identity content here
    rw [sameBytes]
    rcases added place identity content here with
      before | ⟨absent, rfl, rfl⟩
    · exact grown.contents place identity content before
    · -- The file is new: no addition so far has gone to its identity.
      have noContent : start.content? place = none := by
        refine Option.eq_none_iff_forall_ne_some.mpr fun content there => ?_
        obtain ⟨owner, was⟩ := content?_eq_some_iff.mp there
        have still := grown.kept place owner
          (identity?_eq_some_iff.mpr ⟨content, was⟩)
        rw [identity?, absent] at still
        cases still
      have noBytes : tree.addedAt tree.nextIdentity additions = [] := by
        rw [addedAt, List.filter_eq_nil_iff.mpr, List.flatMap_nil]
        intro addition member same
        obtain ⟨content, there⟩ :=
          identity?_eq_some_iff.mp (of_decide_eq_true same)
        exact Nat.lt_irrefl _ (grown.wellFormed.fresh _ _ _ there)
      rw [noContent, noBytes]
      rfl

theorem of_onlyDirectories (grown : start.HasGrown additions tree)
    (wellFormed : after.WellFormed) (only : tree.OnlyDirectories after) :
    start.HasGrown additions after :=
  grown.of_added wellFormed only.keepsDirectories
    (fun _ _ _ => only.node?_file_iff.mpr)
    (fun _ _ _ here => .inl (only.node?_file_iff.mp here))

/-- A file is opened for additions at the place that its path spells, and
nothing is lost. -/
theorem openToAppend (grown : start.HasGrown additions tree)
    {path : PathName} {identity : Nat}
    (opened : tree.openToAppend (tree.absolute path) =
      .ok (identity, after)) :
    start.HasGrown additions after ∧
      after.identity? (tree.absolute path).names = some identity := by
  have wellFormed := grown.wellFormed
  rcases openToAppend_cases wellFormed opened with
    ⟨rfl, place, content, found⟩ |
      ⟨directory, name, leads, absent, rfl, rfl⟩
  · have placeEq : place = _ := wellFormed.path_eq_absolute found
    rw [names_absolute_absolute] at placeEq
    refine ⟨grown, identity?_eq_some_iff.mpr ⟨content, ?_⟩⟩
    rw [← placeEq]
    exact node?_of_find found
  · have placeEq := wellFormed.path_eq_absolute leads.find
    rw [path_placeAt, names_absolute_absolute] at placeEq
    have nodes : ∀ other,
        (tree.withFile (directory ++ [name]) []).node? other =
          if other = directory ++ [name] then
            some (.file tree.nextIdentity [])
          else tree.node? other :=
      node?_withFile wellFormed (by simp) []
    refine ⟨grown.of_added (wellFormed_withFile wellFormed leads absent [])
      (keepsDirectories_withFile wellFormed absent []) ?_ ?_, ?_⟩
    · intro place owner content here
      rw [nodes, if_neg, here]
      rintro rfl
      rw [absent] at here
      cases here
    · intro place owner content here
      rw [nodes] at here
      split at here
      · next same =>
          cases here
          exact .inr ⟨same ▸ absent, rfl, rfl⟩
      · exact .inl here
    · rw [← placeEq]
      exact identity?_eq_some_iff.mpr ⟨[], by rw [nodes, if_pos rfl]⟩

/-- Bytes that are added to the file at a place stand behind all that was
added to it before. -/
theorem append (grown : start.HasGrown additions tree) {place : List Text}
    {identity : Nat} (here : tree.identity? place = some identity)
    (bytes : List UInt8) :
    start.HasGrown (additions ++ [(place, bytes)])
      (tree.append identity bytes) := by
  have sameFile : ∀ owner,
      (tree.append identity bytes).addedAt owner
          (additions ++ [(place, bytes)]) =
        tree.addedAt owner additions ++
          if owner = identity then bytes else [] := by
    intro owner
    simp only [addedAt, identity?_append, List.filter_append,
      List.flatMap_append]
    congr 1
    -- The last addition goes to the file at the place and to no other one.
    by_cases owns : owner = identity
    · simp [here, owns]
    · simp [here, owns, Ne.symm owns]
  refine ⟨grown.wellFormed.append identity bytes,
    grown.directories.trans (keepsDirectories_append tree identity bytes),
    ?_, ?_, ?_⟩
  · intro other owner there
    rw [identity?_append]
    exact grown.kept other owner there
  · intro addition member
    rw [identity?_append]
    rcases List.mem_append.mp member with before | isNew
    · exact grown.opened addition before
    · obtain rfl := List.mem_singleton.mp isNew
      exact ⟨identity, here⟩
  · intro other owner content there
    rw [node?_append, Option.map_eq_some_iff] at there
    obtain ⟨node, before, appended⟩ := there
    cases node with
    | directory => cases appended
    | file oldOwner oldContent =>
        have old := grown.contents other oldOwner oldContent before
        rw [Node.append] at appended
        split at appended
        · next owns =>
            cases appended
            rw [sameFile, if_pos owns, old, List.append_assoc]
        · next apart =>
            cases appended
            rw [sameFile, if_neg apart, List.append_nil]
            exact old

end HasGrown

end FileTree

end VestingContract
