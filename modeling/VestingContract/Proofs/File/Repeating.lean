import VestingContract.Proofs.File.Ownership
import VestingContract.Proofs.File.TemporaryNames

/-!
# Replacing a file again

A replacement that goes through leaves a tree in which the same target can be
replaced again: its directory is there, the name of the temporary file is free
once more, and the target leads to a file.  The second replacement makes no
directory and changes nothing but the target.
-/

namespace VestingContract

namespace FileTree

/-- Two trees cannot be told apart but by the identities of their files. -/
structure LooksLike (tree other : FileTree) : Prop where
  contents : ∀ path, other.content? path = tree.content? path
  directories : ∀ path, other.node? path = some .directory ↔
    tree.node? path = some .directory
  workingDirectory : other.workingDirectory = tree.workingDirectory

theorem LooksLike.refl (tree : FileTree) : tree.LooksLike tree :=
  ⟨fun _ => rfl, fun _ => Iff.rfl, rfl⟩

theorem LooksLike.trans {first second third : FileTree}
    (before : first.LooksLike second) (after : second.LooksLike third) :
    first.LooksLike third :=
  ⟨fun path => (after.contents path).trans (before.contents path),
    fun path => (after.directories path).trans (before.directories path),
    after.workingDirectory.trans before.workingDirectory⟩

/-- A file that gets the content that it has leaves a tree that looks the
same. -/
theorem looksLike_of_put {tree after : FileTree} {place : List Text}
    {identity : Nat} {content : List UInt8}
    (here : tree.content? place = some content)
    (sameDirectory : after.workingDirectory = tree.workingDirectory)
    (nodes : ∀ path, after.node? path =
      if path = place then some (.file identity content)
      else tree.node? path) : tree.LooksLike after := by
  obtain ⟨owner, there⟩ := content?_eq_some_iff.mp here
  refine ⟨fun path => ?_, fun path => ?_, sameDirectory⟩
  · by_cases isPlace : path = place
    · rw [isPlace, here]
      exact content?_eq_some_iff.mpr ⟨identity, by rw [nodes, if_pos rfl]⟩
    · rw [content?, content?, nodes, if_neg isPlace]
  · rw [nodes]
    split
    · next isPlace => simp [isPlace, there]
    · exact Iff.rfl

/-- A file can be moved to every name in a directory at which no directory
stands. -/
theorem exists_rename_of_leads {tree : FileTree} {source target : PathName}
    {place directory : List Text} {identity : Nat} {content : List UInt8}
    {name : Text}
    (found : tree.find source =
      .ok (.present place (.file identity content)))
    (leads : tree.Leads target directory name)
    (noDirectory : tree.node? (directory ++ [name]) ≠ some .directory) :
    ∃ after, tree.rename source target = .ok after := by
  obtain ⟨above, namesEq, -⟩ := leads.walked
  have last : ¬ (target.names.getLast? = none ∨
      target.names.getLast? = some (".." : Text)) := by
    rw [namesEq, List.getLast?_concat]
    simpa using leads.noStep
  rw [rename, found]
  simp only [bind, Except.bind, leads.find]
  rw [if_neg]
  · cases here : tree.node? (directory ++ [name]) with
    | none =>
        rw [placeAt, here]
        exact ⟨_, rfl⟩
    | some node =>
        cases node with
        | directory => exact absurd here noDirectory
        | file owner bytes =>
            rw [placeAt, here]
            exact ⟨_, rfl⟩
  · exact last

end FileTree

namespace FileAction

open Stateful

section Directories

variable {path : PathName} {tree : FileTree}

/-- A directory is found at a path that the system takes. -/
def HasDirectory (path : PathName) (tree : FileTree) : Prop :=
  PathName.check path.toText = .ok () ∧
    ∃ place, tree.find path = .ok (.present place .directory)

theorem hasDirectory_of_isDirectory {after : FileTree}
    (isThere : (isDirectory path).run tree = (.ok true, after)) :
    HasDirectory path after := by
  have looked := run_node? path tree
  rcases seen_cases path tree with
    ⟨fault, seenEq⟩ | seenEq | ⟨place, node, valid, found, seenEq⟩
  all_goals rw [seenEq] at looked
  · rw [isDirectory, run_bind_of_error looked] at isThere
    cases isThere
  · rw [isDirectory, run_bind_of_ok looked] at isThere
    cases isThere
  · rw [isDirectory, run_bind_of_ok looked] at isThere
    cases node with
    | file identity content => cases isThere
    | directory =>
        cases isThere
        exact ⟨valid, place, found⟩

theorem HasDirectory.run_isDirectory (has : HasDirectory path tree) :
    (isDirectory path).run tree = (.ok true, tree) := by
  obtain ⟨valid, place, found⟩ := has
  have looked := run_node? path tree
  rw [seen, valid, found] at looked
  rw [isDirectory, run_bind_of_ok looked]
  rfl

theorem ensures_makeDirectory (path : PathName) (device : Device) :
    Ensures FileTree.WellFormed (makeDirectory path device)
      (fun _ => HasDirectory path) (fun _ => FileTree.WellFormed) := by
  intro tree wellFormed result after ends
  rw [makeDirectory, run_ofChange] at ends
  cases looked : lookedUp path (device.makeDirectory tree path) with
  | error failure =>
      rw [looked] at ends
      cases ends
      exact wellFormed
  | ok made =>
      rw [looked] at ends
      cases ends
      have makes := (Device.unlessRefused_eq_ok_iff.mp
        (of_lookedUp_eq_ok path looked)).1
      have added := (FileTree.addsAlong_makeDirectory makes wellFormed).2
      refine ⟨check_of_lookedUp_eq_ok path looked, ?_⟩
      unfold FileTree.makeDirectory at makes
      cases found : tree.find path with
      | error error =>
          rw [found] at makes
          cases makes
      | ok place =>
          rw [found] at makes
          cases place with
          | present => cases makes
          | free directory name =>
              cases makes
              obtain ⟨leads, -⟩ := wellFormed.exists_leads_of_free found
              refine ⟨directory ++ [name], ?_⟩
              rw [(leads.of_keepsDirectories
                added.keepsDirectories).find, FileTree.placeAt_of_some]
              rw [FileTree.node?_put tree _ (by simp), if_pos rfl]

theorem ensures_isDirectory (path : PathName) :
    Ensures FileTree.WellFormed (isDirectory path)
      (fun isThere tree => tree.WellFormed ∧
        (isThere → HasDirectory path tree))
      (fun _ => FileTree.WellFormed) := by
  intro tree wellFormed result after ends
  have same := run_isDirectory_tree path tree
  rw [ends] at same
  cases same
  cases result with
  | error failure => exact wellFormed
  | ok isThere =>
      refine ⟨wellFormed, ?_⟩
      rintro rfl
      exact hasDirectory_of_isDirectory ends

theorem ensures_ensureOne (path : PathName) (device : Device) :
    Ensures FileTree.WellFormed (ensureOne path device)
      (fun _ => HasDirectory path) (fun _ => FileTree.WellFormed) := by
  refine (ensures_makeDirectory path device).tryCatch fun failure => ?_
  split
  · exact .throw fun _ wellFormed => wellFormed
  · exact .throw fun _ wellFormed => wellFormed
  · refine (ensures_isDirectory path).bind fun isThere => ?_
    cases isThere with
    | false => exact .throw fun _ holds => holds.1
    | true => exact .pure fun _ holds => holds.2 rfl

theorem ensures_ensureReversed (device : Device) (slashes : Nat)
    (names : List Text) :
    Ensures FileTree.WellFormed (ensureReversed device slashes names)
      (fun _ => HasDirectory ⟨slashes, names.reverse⟩)
      (fun _ => FileTree.WellFormed) := by
  cases names with
  | nil => exact ensures_ensureOne _ _
  | cons last above =>
      rw [ensureReversed]
      refine (ensures_ensureOne _ _).tryCatch fun failure => ?_
      split
      · have makesAbove : Preserves FileTree.WellFormed
            (ensureReversed device slashes above) :=
          (addsAlong_ensureReversed device slashes above).preserves
            fun _ _ adds wellFormed => (adds wellFormed).1
        exact makesAbove.bind fun _ => ensures_ensureOne _ _
      · exact .throw fun _ wellFormed => wellFormed

theorem ensures_ensureDirectory (path : PathName) (device : Device) :
    Ensures FileTree.WellFormed (ensureDirectory path device)
      (fun _ => HasDirectory path) (fun _ => FileTree.WellFormed) := by
  have ensures := ensures_ensureReversed device path.slashes path.names.reverse
  rw [List.reverse_reverse] at ensures
  exact ensures

theorem HasDirectory.run_ensureOne (has : HasDirectory path tree)
    (device : Device) : (ensureOne path device).run tree = (.ok ⟨⟩, tree) := by
  have isThere := has.run_isDirectory
  obtain ⟨valid, place, found⟩ := has
  have makes := run_ofChange path tree (device.makeDirectory · path)
  rw [lookedUp, valid, Device.makeDirectory, FileTree.makeDirectory, found]
    at makes
  rw [ensureOne, makeDirectory, run_tryCatch_of_error makes]
  exact run_bind_of_ok isThere _

theorem HasDirectory.run_ensureDirectory (has : HasDirectory path tree)
    (device : Device) : (ensureDirectory path device).run tree = (.ok ⟨⟩, tree) := by
  unfold ensureDirectory
  rcases List.eq_nil_or_concat path.names with namesEq | ⟨above, last, namesEq⟩
  · have pathEq : path = ⟨path.slashes, []⟩ := by rw [← namesEq]
    rw [namesEq]
    rw [pathEq] at has
    exact has.run_ensureOne device
  · rw [List.concat_eq_append] at namesEq
    rw [namesEq, List.reverse_concat, ensureReversed]
    apply run_tryCatch_of_ok
    rw [List.reverse_cons, List.reverse_reverse, ← namesEq]
    exact has.run_ensureOne device

end Directories

section Replaceable

variable {device : Device} {target : PathName} {tree : FileTree}

/-- Nothing is in the way of a replacement: the device takes its steps, the
directory of the target is there, one of the names of temporary files is free,
and the target leads to a name at which no directory stands. -/
structure Replaceable (device : Device) (target : PathName)
    (tree : FileTree) : Prop where
  taken : device.TakesFiles
  wellFormed : tree.WellFormed
  parent : HasDirectory target.parent tree
  temporary : ∃ directory number, TakesTemporary target tree directory ∧
    tree.node? (directory ++ [temporaryName target.name number]) = none
  goal : ∃ directory name, tree.Leads target directory name ∧
    tree.node? (directory ++ [name]) ≠ some .directory

/-- The steps of a replacement that goes through leave the target
replaceable. -/
theorem GoesThrough.replaceable {bytes : List UInt8} {base after : FileTree}
    {directory : List Text} {number : Nat} (wellFormed : tree.WellFormed)
    (steps : GoesThrough device target bytes tree base after directory number) :
    Replaceable device target after ∧
      after.workingDirectory = base.workingDirectory ∧
      ∀ path, after.node? path =
        if path = (base.absolute target).names then
          some (.file base.nextIdentity bytes)
        else base.node? path := by
  obtain ⟨place, replaced, nodes⟩ := FileTree.exists_replaced
    steps.wellFormed steps.leads steps.absent
    (temporaryName_ne target.name number) steps.renamed
  obtain rfl := replaced.place_eq
  have kept := replaced.directories
  have sameAbsolute := kept.absolute_eq target.parent
  have hasParent := ensures_ensureDirectory target.parent device tree
    wellFormed _ _ steps.ensured
  have takes := takesTemporary_of_leads steps.valid steps.leads
  refine ⟨⟨steps.taken, replaced.wellFormed, ?_, ⟨directory, number, ?_, ?_⟩, ?_⟩,
    kept.workingDirectory, nodes⟩
  · obtain ⟨valid, place, found⟩ := hasParent
    exact ⟨valid, place, kept.find found⟩
  · constructor
    · intro other
      rw [sameAbsolute]
      exact takes.valid other
    · intro other
      rw [sameAbsolute]
      exact (takes.leads other).of_keepsDirectories kept
  · -- The file has moved away from its temporary name, which is free again.
    rw [nodes, if_neg, steps.absent]
    rw [directory_of_temporary steps.wellFormed target steps.leads]
    exact Ne.symm (absolute_ne_temporary target number)
  · obtain ⟨identity, found⟩ := replaced.found
    obtain ⟨above, name, leads, placeEq, here⟩ :=
      replaced.wellFormed.exists_leads_of_file found
    rw [placeEq] at here
    exact ⟨above, name, leads, by rw [here]; simp⟩

theorem replaceable_of_replaceText {text : Text} {after : FileTree}
    (wellFormed : tree.WellFormed)
    (ends : (replaceText device target text).run tree = (.ok ⟨⟩, after)) :
    Replaceable device target after := by
  rcases replaceText_steps target wellFormed text with
    ⟨failure, other, fails, -⟩ |
      ⟨bytes, base, other, directory, number, goes, -, steps⟩
  · rw [ends] at fails
    cases fails
  · rw [ends] at goes
    cases goes
    exact (steps.replaceable wellFormed).1

/-- A replacement that nothing is in the way of succeeds. -/
theorem Replaceable.exists_run (replaceable : Replaceable device target tree)
    {text : Text} {bytes : List UInt8} (encoded : Utf8.encode text = .ok bytes) :
    ∃ after, (replaceText device target text).run tree = (.ok ⟨⟩, after) := by
  have wellFormed := replaceable.wellFormed
  obtain ⟨directory, number, takes, absent⟩ := replaceable.temporary
  obtain ⟨above, name, leads, noDirectory⟩ := replaceable.goal
  obtain ⟨created, base, creates⟩ := exists_run_createTemporary_of_free takes
    (replaceable.taken .create) absent tree.nextIdentity
  have makes : (makeTemporary device target).run tree = (.ok created, base) := by
    rw [makeTemporary,
      run_bind_of_ok (replaceable.parent.run_ensureDirectory device),
      run_bind_of_ok (run_get tree), creates]
  rw [replaceText, run_bind_of_ok makes]
  rcases createTemporary_cases wellFormed target tree.nextIdentity tagCount with
    ⟨failure, fails⟩ |
      ⟨temporary, beside, suffix, -, -, leadsThere, free, -, ends⟩
  · rw [creates] at fails
    cases fails
  · rw [creates] at ends
    cases ends
    have found := FileTree.find_withFile wellFormed leadsThere free bytes
    have kept := FileTree.keepsDirectories_withFile wellFormed free bytes
    obtain ⟨after, renamed⟩ := FileTree.exists_rename_of_leads found
      (leads.of_keepsDirectories kept) (by
        rw [FileTree.node?_withFile wellFormed (by simp)]
        split
        · simp
        · exact noDirectory)
    have fills := fills_fillTemporary device target text
      (temporary, tree.nextIdentity)
      (tree.createAt (beside ++ [temporaryName target.name suffix])).2
    generalize ExceptT.run (fillTemporary device target text _) _ = outcome
      at fills ⊢
    cases fills with
    | unencodable unencodable =>
        rw [encoded] at unencodable
        cases unencodable
    | removed begins blocked =>
        obtain ⟨same, error, encodedSame, blocks⟩ := blocked replaceable.taken
        rw [encoded] at encodedSame
        cases encodedSame
        cases blocks.symm.trans renamed
    | moved => exact ⟨_, rfl⟩

/-- A replacement that nothing is in the way of gives the target its bytes,
changes nothing else, and can be made again. -/
theorem Replaceable.run_replaceText (replaceable : Replaceable device target tree)
    {text : Text} {bytes : List UInt8} (encoded : Utf8.encode text = .ok bytes) :
    ∃ after, (replaceText device target text).run tree = (.ok ⟨⟩, after) ∧
      Replaceable device target after ∧
      after.workingDirectory = tree.workingDirectory ∧
      ∀ path, after.node? path =
        if path = (tree.absolute target).names then
          some (.file tree.nextIdentity bytes)
        else tree.node? path := by
  obtain ⟨after, ends⟩ := replaceable.exists_run encoded
  rcases replaceText_steps target replaceable.wellFormed text with
    ⟨failure, other, fails, -⟩ |
      ⟨spelled, base, other, directory, number, goes, spells, steps⟩
  · rw [ends] at fails
    cases fails
  · rw [ends] at goes
    cases goes
    obtain rfl : bytes = spelled := by
      rw [encoded] at spells
      cases spells
      rfl
    obtain rfl : tree = base := by
      have ensured := steps.ensured
      rw [replaceable.parent.run_ensureDirectory device] at ensured
      cases ensured
      rfl
    exact ⟨after, ends, steps.replaceable replaceable.wellFormed⟩

end Replaceable

end FileAction

end VestingContract
