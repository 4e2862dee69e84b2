import VestingContract.Proofs.File.Replacing

/-!
# Files with one owner

A writer has one file of its own, which stands at a temporary place until it
takes the place of a target.  What the writer does to its file leaves the
files of all others as they are, and it is seen at no path but these two.
-/

namespace VestingContract.FileTree

/-- The content of the file at a path, if there is one. -/
def content? (tree : FileTree) (path : List Text) : Option (List UInt8) :=
  match tree.node? path with
  | some (.file _ content) => some content
  | _ => none

section Contents

variable {tree after : FileTree} {path : List Text}
  {content : List UInt8}

theorem content?_eq_some_iff :
    tree.content? path = some content ↔
      ∃ identity, tree.node? path = some (.file identity content) := by
  unfold content?
  split
  · next owner found here => simp [here]
  · next noFile =>
      simp only [reduceCtorEq, false_iff, not_exists]
      exact fun identity here => noFile identity content here

theorem content?_eq_of_files (same : ∀ identity content,
    after.node? path = some (.file identity content) ↔
      tree.node? path = some (.file identity content)) :
    after.content? path = tree.content? path := by
  ext content
  simp only [content?_eq_some_iff, same]

theorem read_of_leads {target : PathName} {directory : List Text}
    {name : Text} (leads : tree.Leads target directory name)
    (here : tree.content? (directory ++ [name]) = some content) :
    tree.read target = .ok content := by
  obtain ⟨identity, found⟩ := content?_eq_some_iff.mp here
  rw [read, leads.find, placeAt_of_some found]
  rfl

/-- What is read is the content of the file at the place that a path
spells. -/
theorem WellFormed.exists_leads_of_read (wellFormed : tree.WellFormed)
    {target : PathName} (found : tree.read target = .ok content) :
    ∃ directory name, tree.Leads target directory name ∧
      directory ++ [name] = (tree.absolute target).names ∧
      tree.content? (tree.absolute target).names = some content := by
  unfold read at found
  cases goal : tree.find target with
  | error error =>
      rw [goal] at found
      cases found
  | ok place =>
      rw [goal] at found
      have spelled := wellFormed.path_eq_absolute goal
      cases place with
      | free directory name => cases found
      | present place node =>
          cases node with
          | directory => cases found
          | file identity bytes =>
              cases found
              obtain ⟨directory, name, leads, placeEq, here⟩ :=
                wellFormed.exists_leads_of_file goal
              refine ⟨directory, name, leads, placeEq.symm.trans spelled, ?_⟩
              exact content?_eq_some_iff.mpr ⟨identity, spelled ▸ here⟩

/-- A path that can be followed leads to the file at the place that it
spells. -/
theorem WellFormed.read_of_find (wellFormed : tree.WellFormed)
    {target : PathName} {place : Place} (found : tree.find target = .ok place)
    (here : tree.content? (tree.absolute target).names = some content) :
    tree.read target = .ok content := by
  rw [← wellFormed.path_eq_absolute found] at here
  obtain ⟨identity, there⟩ := content?_eq_some_iff.mp here
  cases place with
  | free directory name =>
      have absent := (wellFormed.exists_leads_of_free found).2
      rw [Place.path, absent] at there
      cases there
  | present place node =>
      rw [Place.path, node?_of_find found] at there
      cases there
      rw [read, found]
      rfl

/-- A path that is read could be followed before if it has no steps upward and
a file was there. -/
theorem WellFormed.exists_find_of_read (wellFormed : tree.WellFormed)
    (wellFormedAfter : after.WellFormed) {target : PathName}
    {now : List UInt8} (noStep : (".." : Text) ∉ target.names)
    (sameDirectory : after.workingDirectory = tree.workingDirectory)
    (found : after.read target = .ok now)
    (here : tree.content? (after.absolute target).names = some content) :
    ∃ place, tree.find target = .ok place := by
  obtain ⟨directory, name, leads, spelled, there⟩ :=
    wellFormedAfter.exists_leads_of_read found
  rw [← spelled] at here there
  obtain ⟨owner, foundAfter⟩ := content?_eq_some_iff.mp there
  obtain ⟨identity, foundBefore⟩ := content?_eq_some_iff.mp here
  have goal := leads.find
  rw [placeAt_of_some foundAfter] at goal
  exact ⟨_, wellFormed.find_of_node? sameDirectory noStep goal foundBefore⟩

end Contents

/-- The file of an identity stands at one place only. -/
structure Owns (tree : FileTree) (place : List Text) (identity : Nat)
    (content : List UInt8) : Prop where
  here : tree.node? place = some (.file identity content)
  only : ∀ other found,
    tree.node? other = some (.file identity found) → other = place

/-- Files of some identities have changed.  All other files are still there
unless they have been replaced, and the change is seen at the temporary place
and where a file has been replaced. -/
structure ChangesOwn (mine : Nat → Prop) (temporary : List Text)
    (replaced : List Text → Prop) (tree after : FileTree) : Prop where
  wellFormed : after.WellFormed
  directories : tree.KeepsDirectories after
  later : tree.nextIdentity ≤ after.nextIdentity
  noNew : ∀ path identity content, ¬ mine identity →
    after.node? path = some (.file identity content) →
      tree.node? path = some (.file identity content)
  keeps : ∀ path identity content, ¬ mine identity → ¬ replaced path →
    tree.node? path = some (.file identity content) →
      after.node? path = some (.file identity content)
  same : ∀ path, path ≠ temporary → ¬ replaced path →
    after.content? path = tree.content? path

section Changes

variable {mine : Nat → Prop} {replaced : List Text → Prop}
  {tree after : FileTree}

theorem ChangesOwn.of_onlyDirectories {temporary : List Text}
    (wellFormed : after.WellFormed) (only : tree.OnlyDirectories after) :
    tree.ChangesOwn mine temporary replaced after where
  wellFormed := wellFormed
  directories := only.keepsDirectories
  later := Nat.le_of_eq only.nextIdentity.symm
  noNew _ _ _ _ := only.node?_file_iff.mp
  keeps _ _ _ _ _ := only.node?_file_iff.mpr
  same _ _ _ := content?_eq_of_files fun _ _ => only.node?_file_iff

/-- A file stays with its owner when someone else changes files. -/
theorem Owns.of_changesOwn {place temporary : List Text} {identity : Nat}
    {content : List UInt8} (owns : tree.Owns place identity content)
    (change : tree.ChangesOwn mine temporary replaced after)
    (other : ¬ mine identity) (notReplaced : ¬ replaced place) :
    after.Owns place identity content where
  here := change.keeps _ _ _ other notReplaced owns.here
  only path found here :=
    owns.only path found (change.noNew _ _ _ other here)

section Creating

variable (wellFormed : tree.WellFormed) {path : PathName}
  {directory : List Text} {name : Text}

include wellFormed

theorem owns_createAt :
    (tree.createAt (directory ++ [name])).2.Owns (directory ++ [name])
      tree.nextIdentity [] := by
  have notRoot : directory ++ [name] ≠ [] := by simp
  have nodes := node?_createAt tree notRoot
  refine ⟨by rw [nodes, if_pos rfl], fun other found here => ?_⟩
  rw [nodes] at here
  split at here
  · assumption
  · exact absurd (wellFormed.fresh other _ found here)
      (Nat.lt_irrefl tree.nextIdentity)

theorem changesOwn_createAt (leads : tree.Leads path directory name)
    (absent : tree.node? (directory ++ [name]) = none)
    (isMine : mine tree.nextIdentity) :
    tree.ChangesOwn mine (directory ++ [name]) replaced
      (tree.createAt (directory ++ [name])).2 := by
  have notRoot : directory ++ [name] ≠ [] := by simp
  have nodes := node?_createAt tree notRoot
  refine ⟨wellFormed.createAt leads.node?_directory leads.noStep absent,
    ⟨fun path here => ?_, rfl⟩, Nat.le_succ tree.nextIdentity,
    fun path identity content other here => ?_,
    fun path identity content _ _ here => ?_,
    fun path elsewhere _ => ?_⟩
  · rw [nodes, if_neg, here]
    rintro rfl
    rw [absent] at here
    cases here
  · rw [nodes] at here
    split at here
    · cases here
      exact absurd isMine other
    · exact here
  · rw [nodes, if_neg, here]
    rintro rfl
    rw [absent] at here
    cases here
  · rw [content?, nodes, if_neg elsewhere]
    rfl

end Creating

section Owned

variable (wellFormed : tree.WellFormed) {place : List Text} {identity : Nat}
  {content : List UInt8} (owns : tree.Owns place identity content)

include owns

theorem Owns.append (bytes : List UInt8) :
    (tree.append identity bytes).Owns place identity (content ++ bytes) := by
  constructor
  · rw [node?_append, owns.here, Option.map_some, Node.append, if_pos rfl]
  · intro other found here
    rw [node?_append] at here
    obtain ⟨node, before, appended⟩ := Option.map_eq_some_iff.mp here
    cases node with
    | directory => cases appended
    | file owner old =>
        have sameOwner : owner = identity := by
          rw [Node.append] at appended
          split at appended
          · assumption
          · exact (Node.file.inj appended).1
        subst sameOwner
        exact owns.only other old before

variable {path target : PathName} {directory : List Text} {name : Text}
  (leads : tree.Leads path directory name)
  (placeEq : directory ++ [name] = place)

include leads placeEq in
theorem find_of_owns :
    tree.find path = .ok (.present place (.file identity content)) := by
  have here := owns.here
  rw [← placeEq] at here ⊢
  rw [leads.find, placeAt_of_some here]

include wellFormed

theorem changesOwn_append (isMine : mine identity) (bytes : List UInt8) :
    tree.ChangesOwn mine place replaced (tree.append identity bytes) := by
  have others : ∀ path owner found, owner ≠ identity →
      ((tree.append identity bytes).node? path = some (.file owner found) ↔
        tree.node? path = some (.file owner found)) :=
    fun path owner found other =>
      node?_append_file_iff tree other bytes found
  refine ⟨wellFormed.append identity bytes, ⟨fun path here => ?_, rfl⟩,
    Nat.le_refl _, fun path owner found other => ?_,
    fun path owner found other _ => ?_, fun path elsewhere _ => ?_⟩
  · rw [node?_append, here]
    rfl
  · exact (others path owner found fun same => other (same ▸ isMine)).mp
  · exact (others path owner found fun same => other (same ▸ isMine)).mpr
  · refine content?_eq_of_files fun owner found => ?_
    by_cases same : owner = identity
    · subst same
      exact ⟨fun here => absurd ((owns.append bytes).only _ _ here) elsewhere,
        fun here => absurd (owns.only _ _ here) elsewhere⟩
    · exact others path owner found same

include leads placeEq

theorem changesOwn_remove (isMine : mine identity) :
    tree.ChangesOwn mine place replaced (tree.remove path) := by
  have found := find_of_owns owns leads placeEq
  have removed : tree.remove path = tree.erase place := by
    rw [remove, found]
  have nodes := node?_erase_file wellFormed found
  rw [removed]
  refine ⟨wellFormed_erase_file wellFormed found,
    keepsDirectories_erase_file wellFormed found,
    Nat.le_refl tree.nextIdentity,
    fun path owner bytes _ here => ?_,
    fun path owner bytes other _ here => ?_,
    fun path elsewhere _ => ?_⟩
  · rw [nodes] at here
    split at here
    · cases here
    · exact here
  · rw [nodes, if_neg, here]
    rintro rfl
    rw [owns.here] at here
    cases here
    exact other isMine
  · rw [content?, nodes, if_neg elsewhere]
    rfl

/-- The file of an owner takes the place that the target spells. -/
theorem changesOwn_rename (isMine : mine identity)
    (different : target.name ≠ name)
    (isReplaced : replaced (tree.absolute target).names)
    (renamed : tree.rename path target = .ok after) :
    tree.ChangesOwn mine place replaced after ∧
      (∃ above last, after.Leads target above last ∧
        above ++ [last] = (tree.absolute target).names) ∧
      after.content? (tree.absolute target).names = some content := by
  have found := find_of_owns owns leads placeEq
  rw [← leads.name_eq] at different
  obtain ⟨goal, -, wellFormedAfter, kept, foundAfter, nodes⟩ :=
    exists_of_rename wellFormed found different renamed
  have goalEq : goal = (tree.absolute target).names := by
    have spelled := wellFormedAfter.path_eq_absolute foundAfter
    rwa [kept.absolute_eq] at spelled
  obtain ⟨above, last, leadsAfter, goalParts, here⟩ :=
    wellFormedAfter.exists_leads_of_file foundAfter
  subst goalEq
  refine ⟨⟨wellFormedAfter, kept, ?_, ?_, ?_, ?_⟩,
    ⟨above, last, leadsAfter, goalParts.symm⟩,
    content?_eq_some_iff.mpr ⟨identity, here⟩⟩
  · obtain ⟨_, _, -, -, afterEq⟩ :=
      exists_goal_of_rename wellFormed found renamed
    rw [afterEq]
    exact Nat.le_refl tree.nextIdentity
  -- A file of somebody else after the renaming is at neither place, since
  -- the one that was moved is mine.
  · intro path owner bytes other here
    rw [nodes] at here
    split at here
    · cases here
      exact absurd isMine other
    · split at here
      · cases here
      · exact here
  · intro path owner bytes other notReplaced here
    rw [nodes, if_neg, if_neg, here]
    · rintro rfl
      rw [owns.here] at here
      cases here
      exact other isMine
    · rintro rfl
      exact notReplaced isReplaced
  · intro path elsewhere notReplaced
    rw [content?, nodes, if_neg, if_neg elsewhere]
    · rfl
    · rintro rfl
      exact notReplaced isReplaced

end Owned

end Changes

end VestingContract.FileTree
