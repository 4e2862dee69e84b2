import VestingContract.Proofs.File.Changes
import VestingContract.Proofs.File.Filling

/-!
# Replacing a file

A target is replaced as a whole or not at all.  Until the temporary file
takes the target's place every file is as it was, and the only new file has a
name that differs from the target's.
-/

namespace VestingContract

namespace FileTree

/-- The files of a tree are still there, and a new file has another name than
the one that is spared. -/
structure SparesName (name : Text) (tree after : FileTree) : Prop where
  wellFormed : after.WellFormed
  directories : tree.KeepsDirectories after
  keeps : ∀ path identity content,
    tree.node? path = some (.file identity content) →
      after.node? path = some (.file identity content)
  noNew : ∀ directory identity content,
    after.node? (directory ++ [name]) = some (.file identity content) →
      tree.node? (directory ++ [name]) = some (.file identity content)

/-- A target has got bytes for its content, all other files are as they were,
and new directories are above the target. -/
structure Replaced (target : PathName) (bytes : List UInt8)
    (place : List Text) (tree after : FileTree) : Prop where
  wellFormed : after.WellFormed
  directories : tree.KeepsDirectories after
  found : ∃ identity,
    after.find target = .ok (.present place (.file identity bytes))
  others : ∀ path, path ≠ place → ∀ identity content,
    after.node? path = some (.file identity content) ↔
      tree.node? path = some (.file identity content)
  along : ∀ path, after.node? path = some .directory →
    tree.node? path = some .directory ∨ tree.LiesOn target.parent path

namespace SparesName

variable {first second tree after : FileTree} {name : Text}

theorem of_onlyDirectories (wellFormed : after.WellFormed)
    (only : tree.OnlyDirectories after) : tree.SparesName name after :=
  ⟨wellFormed, only.keepsDirectories,
    fun _ _ _ => only.node?_file_iff.mpr,
    fun _ _ _ => only.node?_file_iff.mp⟩

theorem of_sameFilesBut (same : tree.SameFilesBut (fun _ => False) after) :
    tree.SparesName name after :=
  ⟨same.wellFormed, same.directories,
    fun path identity content => (same.files path identity content id).mpr,
    fun _ identity content => (same.files _ identity content id).mp⟩

theorem of_onlyDirectories_trans (only : first.OnlyDirectories second)
    (spares : second.SparesName name after) :
    first.SparesName name after := by
  refine ⟨spares.wellFormed, only.keepsDirectories.trans spares.directories,
    ?_, ?_⟩
  · intro path identity content here
    exact spares.keeps path identity content (only.node?_file_iff.mpr here)
  · intro directory identity content here
    exact only.node?_file_iff.mp
      (spares.noNew directory identity content here)

/-- A path of the spared name leads to no new file. -/
theorem node?_of_find {path : PathName} {place : List Text} {identity : Nat}
    {content : List UInt8} (spares : tree.SparesName path.name after)
    (found : after.find path =
      .ok (.present place (.file identity content))) :
    tree.node? place = some (.file identity content) := by
  obtain ⟨directory, name, leads, rfl, here⟩ :=
    spares.wellFormed.exists_leads_of_file found
  rw [← leads.name_eq] at here ⊢
  exact spares.noNew directory identity content here

end SparesName

/-- New directories are above a target, too, if some of them are made before
the others. -/
theorem OnlyAlong.along_trans {first second after : FileTree}
    {way : PathName} (only : first.OnlyAlong way second)
    (later : ∀ path, after.node? path = some .directory →
      second.node? path = some .directory ∨ second.LiesOn way path)
    (path : List Text) (here : after.node? path = some .directory) :
    first.node? path = some .directory ∨ first.LiesOn way path := by
  rcases later path here with before | lies
  · exact only.node?_directory before
  · exact .inr ((liesOn_congr only.workingDirectory way path).mp lies)

theorem Replaced.of_onlyAlong_trans {first second after : FileTree}
    {target : PathName} {bytes : List UInt8} {place : List Text}
    (only : first.OnlyAlong target.parent second)
    (replaced : second.Replaced target bytes place after) :
    first.Replaced target bytes place after := by
  refine ⟨replaced.wellFormed,
    only.keepsDirectories.trans replaced.directories, replaced.found, ?_,
    only.along_trans replaced.along⟩
  intro path other identity content
  rw [replaced.others path other, only.node?_file_iff]

/-- The bytes stand at the place that the target spells. -/
theorem Replaced.place_eq {tree after : FileTree} {target : PathName}
    {bytes : List UInt8} {place : List Text}
    (replaced : tree.Replaced target bytes place after) :
    place = (tree.absolute target).names := by
  obtain ⟨identity, found⟩ := replaced.found
  have spelled := replaced.wellFormed.path_eq_absolute found
  rwa [replaced.directories.absolute_eq] at spelled

section Temporary

variable {tree : FileTree} (wellFormed : tree.WellFormed)
  {temporary : PathName} {directory : List Text} {name : Text}
  (leads : tree.Leads temporary directory name)
  (absent : tree.node? (directory ++ [name]) = none)

/-- A tree with a new file that bytes are written to. -/
def withFile (tree : FileTree) (path : List Text) (bytes : List UInt8) :
    FileTree :=
  (tree.createAt path).2.append tree.nextIdentity bytes

include wellFormed

/-- The identity of the new file is its own, so no other file gets the
bytes. -/
theorem node?_withFile {path : List Text} (notRoot : path ≠ [])
    (bytes : List UInt8) (other : List Text) :
    (tree.withFile path bytes).node? other =
      if other = path then some (.file tree.nextIdentity bytes)
      else tree.node? other := by
  rw [withFile, node?_append, node?_createAt tree notRoot]
  by_cases same : other = path
  · rw [if_pos same, if_pos same, Option.map_some, Node.append, if_pos rfl,
      List.nil_append]
  · rw [if_neg same, if_neg same]
    cases here : tree.node? other with
    | none => rfl
    | some node =>
        cases node with
        | directory => rfl
        | file identity content =>
            have known := wellFormed.fresh other identity content here
            rw [Option.map_some, Node.append_of_ne (by omega)]

include absent

theorem keepsDirectories_withFile (bytes : List UInt8) :
    tree.KeepsDirectories (tree.withFile (directory ++ [name]) bytes) := by
  refine ⟨fun path here => ?_, rfl⟩
  rw [node?_withFile wellFormed (by simp), if_neg, here]
  rintro rfl
  rw [absent] at here
  cases here

include leads

theorem wellFormed_withFile (bytes : List UInt8) :
    (tree.withFile (directory ++ [name]) bytes).WellFormed :=
  (wellFormed.createAt leads.node?_directory leads.noStep absent).append _ _

theorem sparesName_withFile {spared : Text} (different : name ≠ spared)
    (bytes : List UInt8) :
    tree.SparesName spared (tree.withFile (directory ++ [name]) bytes) := by
  constructor
  · exact wellFormed_withFile wellFormed leads absent bytes
  · exact keepsDirectories_withFile wellFormed absent bytes
  · intro path identity content here
    rw [node?_withFile wellFormed (by simp), if_neg, here]
    rintro rfl
    rw [absent] at here
    cases here
  · intro other identity content here
    rw [node?_withFile wellFormed (by simp), if_neg] at here
    · exact here
    · intro same
      apply different
      simpa using (List.append_inj' same rfl).2.symm

theorem find_withFile (bytes : List UInt8) :
    (tree.withFile (directory ++ [name]) bytes).find temporary =
      .ok (.present (directory ++ [name])
        (.file tree.nextIdentity bytes)) := by
  have kept := keepsDirectories_withFile wellFormed absent bytes
  rw [(leads.of_keepsDirectories kept).find, placeAt_of_some]
  rw [node?_withFile wellFormed (by simp), if_pos rfl]

end Temporary

section Renaming

variable {tree after : FileTree} (wellFormed : tree.WellFormed)
  {source target : PathName} {place : List Text} {identity : Nat}
  {content : List UInt8}
  (found : tree.find source = .ok (.present place (.file identity content)))

include wellFormed found

theorem node?_erase_file (other : List Text) :
    (tree.erase place).node? other =
      if other = place then none else tree.node? other := by
  obtain ⟨directory, name, -, rfl, here⟩ :=
    wellFormed.exists_leads_of_file found
  rw [node?_erase tree _ (by simp)]
  by_cases same : other = directory ++ [name]
  · rw [if_pos same, if_pos (same ▸ List.prefix_refl _)]
  · rw [if_neg same]
    split
    · next below =>
        cases there : tree.node? other with
        | none => rfl
        | some node =>
            have noDirectory :
                tree.node? (directory ++ [name]) ≠ some .directory := by
              rw [here]
              simp
            exact absurd (wellFormed.eq_of_isPrefix noDirectory there below)
              same
    · rfl

theorem wellFormed_erase_file : (tree.erase place).WellFormed := by
  obtain ⟨-, -, -, -, here⟩ := wellFormed.exists_leads_of_file found
  apply wellFormed.erase
  rw [here]
  simp

theorem keepsDirectories_erase_file :
    tree.KeepsDirectories (tree.erase place) := by
  obtain ⟨-, -, -, -, here⟩ := wellFormed.exists_leads_of_file found
  refine ⟨fun path isDirectory => ?_, rfl⟩
  rw [node?_erase_file wellFormed found, if_neg, isDirectory]
  rintro rfl
  rw [here] at isDirectory
  cases isDirectory

/-- A file is moved to a name in a directory where no directory stands. -/
theorem exists_goal_of_rename
    (renamed : tree.rename source target = .ok after) :
    ∃ directory name, tree.Leads target directory name ∧
      tree.node? (directory ++ [name]) ≠ some .directory ∧
      after = (tree.erase place).put (directory ++ [name])
        (.file identity content) := by
  rw [rename, found] at renamed
  simp only [bind, Except.bind, pure, Except.pure] at renamed
  cases goal : tree.find target with
  | error error =>
      rw [goal] at renamed
      cases renamed
  | ok end_ =>
      rw [goal] at renamed
      simp only at renamed
      split at renamed
      · cases renamed
      · cases end_ with
        | free directory name =>
            cases renamed
            obtain ⟨leads, absent⟩ := wellFormed.exists_leads_of_free goal
            exact ⟨directory, name, leads, by rw [absent]; simp, rfl⟩
        | present path node =>
            cases node with
            | directory => cases renamed
            | file owner bytes =>
                cases renamed
                obtain ⟨directory, name, leads, rfl, there⟩ :=
                  wellFormed.exists_leads_of_file goal
                exact ⟨directory, name, leads, by rw [there]; simp, rfl⟩

/-- A file that is moved to a path of another name is found there, and it is
gone from its old place. -/
theorem exists_of_rename (different : target.name ≠ source.name)
    (renamed : tree.rename source target = .ok after) :
    ∃ goal, goal ≠ place ∧ after.WellFormed ∧
      tree.KeepsDirectories after ∧
      after.find target =
        .ok (.present goal (.file identity content)) ∧
      ∀ other, after.node? other =
        if other = goal then some (.file identity content)
        else if other = place then none else tree.node? other := by
  obtain ⟨above, last, leadsSource, placeEq, here⟩ :=
    wellFormed.exists_leads_of_file found
  obtain ⟨directory, name, leads, noDirectory, afterEq⟩ :=
    exists_goal_of_rename wellFormed found renamed
  -- The last names of the two places differ, so erasing the one leaves the
  -- other.
  have apart : directory ++ [name] ≠ place := by
    intro same
    apply different
    rw [leads.name_eq, leadsSource.name_eq]
    rw [placeEq] at same
    simpa using (List.append_inj' same rfl).2
  have nodes : ∀ other, after.node? other =
      if other = directory ++ [name] then some (.file identity content)
      else if other = place then none else tree.node? other := by
    intro other
    rw [afterEq, node?_put _ _ (by simp), node?_erase_file wellFormed found]
  have kept : tree.KeepsDirectories after := by
    refine ⟨fun path isDirectory => ?_, by rw [afterEq]; rfl⟩
    rw [nodes, if_neg, if_neg, isDirectory]
    · rintro rfl
      rw [here] at isDirectory
      cases isDirectory
    · rintro rfl
      exact noDirectory isDirectory
  refine ⟨directory ++ [name], apart, ?_, kept, ?_, nodes⟩
  · rw [afterEq]
    have erased := keepsDirectories_erase_file wellFormed found
    apply (wellFormed_erase_file wellFormed found).put
    · exact erased.directories _ leads.node?_directory
    · exact leads.noStep
    · rw [node?_erase_file wellFormed found, if_neg apart]
      exact noDirectory
    · intro owner bytes same
      cases same
      exact wellFormed.fresh place identity content here
  · rw [(leads.of_keepsDirectories kept).find, placeAt_of_some]
    rw [nodes, if_pos rfl]

end Renaming

theorem withFile_nil (tree : FileTree) (path : List Text) :
    tree.withFile path [] = (tree.createAt path).2 :=
  append_nil _ _

section Outcomes

variable {tree : FileTree} (wellFormed : tree.WellFormed)
  {temporary target : PathName} {directory : List Text} {name : Text}
  (leads : tree.Leads temporary directory name)
  (absent : tree.node? (directory ++ [name]) = none)
  (different : target.name ≠ name)

include wellFormed leads absent

/-- Once the temporary file is taken out, everything is as it was. -/
theorem node?_remove (bytes : List UInt8) (path : List Text) :
    ((tree.withFile (directory ++ [name]) bytes).remove temporary).node?
      path = tree.node? path := by
  have found := find_withFile wellFormed leads absent bytes
  have written := wellFormed_withFile wellFormed leads absent bytes
  rw [remove, found]
  simp only
  rw [node?_erase_file written found]
  by_cases isTemporary : path = directory ++ [name]
  · rw [if_pos isTemporary, isTemporary, absent]
  · rw [if_neg isTemporary, node?_withFile wellFormed (by simp),
      if_neg isTemporary]

theorem sameFilesBut_remove (bytes : List UInt8) :
    tree.SameFilesBut (fun _ => False)
      ((tree.withFile (directory ++ [name]) bytes).remove temporary) := by
  have found := find_withFile wellFormed leads absent bytes
  have written := wellFormed_withFile wellFormed leads absent bytes
  have nodes := node?_remove wellFormed leads absent bytes
  refine ⟨?_, ⟨fun path here => by rw [nodes, here], ?_⟩, ?_,
    fun _ isLog => isLog.elim,
    fun path identity content _ => by rw [nodes]⟩ <;>
    rw [remove, found]
  · exact wellFormed_erase_file written found
  · rfl
  · exact Nat.le_succ tree.nextIdentity

include different

/-- Once the temporary file has taken the target's place, the target holds the
bytes and nothing is left of the temporary file. -/
theorem exists_replaced {after : FileTree} {bytes : List UInt8}
    (renamed : (tree.withFile (directory ++ [name]) bytes).rename temporary
      target = .ok after) :
    ∃ place, tree.Replaced target bytes place after ∧
      ∀ path, after.node? path =
        if path = place then some (.file tree.nextIdentity bytes)
        else tree.node? path := by
  have found := find_withFile wellFormed leads absent bytes
  have written := wellFormed_withFile wellFormed leads absent bytes
  have kept := keepsDirectories_withFile wellFormed absent bytes
  obtain ⟨goal, apart, wellFormedAfter, keptAfter, foundAfter, moved⟩ :=
    exists_of_rename written found (by rwa [leads.name_eq]) renamed
  have nodes : ∀ path, after.node? path =
      if path = goal then some (.file tree.nextIdentity bytes)
      else tree.node? path := by
    intro path
    rw [moved, node?_withFile wellFormed (by simp)]
    by_cases isTemporary : path = directory ++ [name]
    · rw [isTemporary, if_pos rfl, absent]
    · rw [if_neg isTemporary, if_neg isTemporary]
  refine ⟨goal, ⟨wellFormedAfter, kept.trans keptAfter, ⟨_, foundAfter⟩,
    fun path other identity content => by rw [nodes, if_neg other],
    fun path here => ?_⟩, nodes⟩
  rw [nodes] at here
  split at here
  · cases here
  · exact .inl here

end Outcomes

end FileTree

namespace FileAction

open Stateful

theorem temporaryName_ne (target : Text) (number : Nat) :
    target ≠ temporaryName target number := by
  intro same
  have lengths := congrArg List.length same
  simp only [temporaryName, List.length_append] at lengths
  have point : ("." : Text).length = 1 := rfl
  omega

section Temporary

variable {device : Device} {tree : FileTree} (wellFormed : tree.WellFormed)
  (target : PathName)

include wellFormed

/-- A file that is created stands at a name that was free. -/
theorem exists_leads_of_createNew {path : PathName}
    {update : Nat × FileTree} (made : tree.createNew path = .ok update) :
    ∃ directory, tree.Leads path directory path.name ∧
      tree.node? (directory ++ [path.name]) = none ∧
      update = (tree.nextIdentity,
        (tree.createAt (directory ++ [path.name])).2) := by
  unfold FileTree.createNew at made
  cases found : tree.find path with
  | error error =>
      rw [found] at made
      cases made
  | ok place =>
      rw [found] at made
      cases place with
      | present => cases made
      | free directory name =>
          cases made
          obtain ⟨leads, absent⟩ := wellFormed.exists_leads_of_free found
          have nameEq := leads.name_eq
          subst nameEq
          exact ⟨directory, leads, absent, rfl⟩

/-- A temporary file is new, or nothing has changed. -/
theorem createTemporary_cases (number attempts : Nat) :
    (∃ failure, (createTemporary device target number attempts).run tree =
      (.error failure, tree)) ∨
    ∃ temporary directory suffix,
      temporary = (tree.absolute target.parent).child
        (temporaryName target.name suffix) ∧
      PathName.check temporary.toText = .ok () ∧
      tree.Leads temporary directory (temporaryName target.name suffix) ∧
      tree.node? (directory ++ [temporaryName target.name suffix]) = none ∧
      device.refuses .create = none ∧
      (createTemporary device target number attempts).run tree =
        (.ok (temporary, tree.nextIdentity), (tree.createAt
          (directory ++ [temporaryName target.name suffix])).2) := by
  induction attempts generalizing number with
  | zero => exact .inl ⟨_, rfl⟩
  | succ attempts ih =>
      let path := (tree.absolute target.parent).child
        (temporaryName target.name number)
      have created := run_ofUpdate path tree (device.createNew · path)
      cases looked : lookedUp path (device.createNew tree path) with
      | error failure =>
          rw [looked] at created
          have first : (ofUpdate path (device.createNew · path) >>=
              fun identity => pure (path, identity) :
              FileAction (PathName × Nat)).run tree =
                (.error failure, tree) := run_bind_of_error created _
          rw [createTemporary, run_bind_of_ok (run_get tree),
            run_tryCatch_of_error first]
          split
          · exact ih (number + 1)
          · exact .inl ⟨failure, rfl⟩
      | ok update =>
          rw [looked] at created
          obtain ⟨made, takesNew⟩ := Device.unlessRefused_eq_ok_iff.mp
            (of_lookedUp_eq_ok path looked)
          obtain ⟨directory, leads, absent, updateEq⟩ :=
            exists_leads_of_createNew wellFormed made
          have nameEq : path.name = temporaryName target.name number := by
            simp [path, PathName.name, PathName.child]
          rw [nameEq] at leads absent updateEq
          subst updateEq
          have first : (ofUpdate path (device.createNew · path) >>=
              fun identity => pure (path, identity) :
              FileAction (PathName × Nat)).run tree = _ :=
            run_bind_of_ok created _
          refine .inr ⟨path, directory, number, rfl,
            check_of_lookedUp_eq_ok path looked, leads, absent, takesNew, ?_⟩
          rw [createTemporary, run_bind_of_ok (run_get tree),
            run_tryCatch_of_ok first]

/-- The temporary file stands beside the place that a target spells. -/
theorem directory_of_temporary {directory : List Text} {number : Nat}
    (leads : tree.Leads ((tree.absolute target.parent).child
      (temporaryName target.name number)) directory
        (temporaryName target.name number)) :
    directory = (tree.absolute target.parent).names := by
  have placeEq := wellFormed.path_eq_absolute leads.find
  rw [FileTree.path_placeAt,
    FileTree.names_absolute_child tree _ leads.noStep] at placeEq
  exact (List.append_inj' placeEq rfl).1

end Temporary

section Targets

variable {device : Device} {tree : FileTree} (target : PathName)

/-- The place that a target spells is not the one of a temporary file. -/
theorem absolute_ne_temporary (number : Nat) :
    (tree.absolute target).names ≠ (tree.absolute target.parent).names ++
      [temporaryName target.name number] := by
  have sameStart : tree.start target.parent = tree.start target := rfl
  rw [FileTree.names_absolute, FileTree.names_absolute, sameStart]
  rcases List.eq_nil_or_concat target.names with
    namesEq | ⟨above, last, namesEq⟩
  · rw [PathName.parent, namesEq]
    simp
  · rw [List.concat_eq_append] at namesEq
    have nameEq : target.name = last := by
      rw [PathName.name, namesEq, List.getLast?_concat, Option.getD_some]
    rw [PathName.parent, namesEq, List.dropLast_concat, nameEq,
      ← List.append_assoc, FileTree.resolveUpward_concat]
    split
    · intro same
      have lengths := congrArg List.length same
      simp only [List.length_dropLast, List.length_append,
        List.length_singleton] at lengths
      omega
    · intro same
      have lastEq := (List.append_inj' same rfl).2
      exact temporaryName_ne last number (List.singleton_inj.mp lastEq)

/-- A target has not been replaced: every file is as it was and none has come
into existence under its name or at its place, and new directories are above
the target.  Only a text without an encoding leaves a new file behind. -/
structure SparesTarget (target : PathName) (failure : FileFailure)
    (tree after : FileTree) : Prop where
  spares : tree.SparesName target.name after
  place : ∀ identity content,
    after.node? (tree.absolute target).names =
        some (.file identity content) →
      tree.node? (tree.absolute target).names =
        some (.file identity content)
  along : ∀ path, after.node? path = some .directory →
    tree.node? path = some .directory ∨ tree.LiesOn target.parent path
  same : (∀ fault, failure ≠ .encoding fault) →
    tree.SameFilesBut (fun _ => False) after

theorem SparesTarget.of_sameFilesBut {failure : FileFailure}
    {after : FileTree} (same : tree.SameFilesBut (fun _ => False) after)
    (noNew : ∀ path, after.node? path = some .directory →
      tree.node? path = some .directory) :
    SparesTarget target failure tree after :=
  ⟨.of_sameFilesBut same,
    fun identity content => (same.files _ identity content id).mp,
    fun path here => .inl (noNew path here), fun _ => same⟩

theorem SparesTarget.refl (failure : FileFailure)
    (wellFormed : tree.WellFormed) : SparesTarget target failure tree tree :=
  .of_sameFilesBut target (.refl wellFormed fun _ isLog => isLog.elim)
    fun _ here => here

/-- The temporary file that is left behind when a text has no encoding. -/
theorem SparesTarget.of_encoding (wellFormed : tree.WellFormed)
    {directory : List Text} {number : Nat} (fault : Utf8.EncodeFault)
    (leads : tree.Leads ((tree.absolute target.parent).child
      (temporaryName target.name number)) directory
        (temporaryName target.name number))
    (absent :
      tree.node? (directory ++ [temporaryName target.name number]) = none) :
    SparesTarget target (.encoding fault) tree
      (tree.createAt (directory ++ [temporaryName target.name number])).2 := by
  have spares := FileTree.sparesName_withFile wellFormed leads absent
    (Ne.symm (temporaryName_ne target.name number)) []
  rw [FileTree.withFile_nil] at spares
  refine ⟨spares, fun identity content here => ?_, fun path here => ?_,
    fun noEncoding => absurd rfl (noEncoding fault)⟩
  · rw [FileTree.node?_createAt tree (by simp), if_neg] at here
    · exact here
    · rw [directory_of_temporary wellFormed target leads]
      exact absolute_ne_temporary target number
  · rw [FileTree.node?_createAt tree (by simp)] at here
    split at here
    · cases here
    · exact .inl here

theorem SparesTarget.of_onlyAlong_trans {first second after : FileTree}
    {failure : FileFailure} (wellFormed : second.WellFormed)
    (only : first.OnlyAlong target.parent second)
    (spares : SparesTarget target failure second after) :
    SparesTarget target failure first after := by
  have sameGoal : first.absolute target = second.absolute target :=
    (only.keepsDirectories.absolute_eq target).symm
  refine ⟨.of_onlyDirectories_trans only.toOnlyDirectories spares.spares, ?_,
    only.along_trans spares.along, fun noEncoding =>
    (FileTree.SameFilesBut.of_onlyDirectories wellFormed
      only.toOnlyDirectories).trans (spares.same noEncoding) fun _ => by simp⟩
  intro identity content here
  rw [sameGoal] at here ⊢
  exact only.node?_file_iff.mp (spares.place identity content here)

/-- What a replacement that goes through has done: it has made the directories
above its target and a temporary file with the bytes, which it has moved, and
the device has taken all its steps on the file. -/
structure GoesThrough (device : Device) (target : PathName)
    (bytes : List UInt8) (tree base after : FileTree) (directory : List Text)
    (number : Nat) : Prop where
  taken : device.TakesFiles
  ensured : (ensureDirectory target.parent device).run tree = (.ok ⟨⟩, base)
  wellFormed : base.WellFormed
  only : tree.OnlyAlong target.parent base
  valid : PathName.check ((base.absolute target.parent).child
    (temporaryName target.name number)).toText = .ok ()
  leads : base.Leads ((base.absolute target.parent).child
    (temporaryName target.name number)) directory
      (temporaryName target.name number)
  absent : base.node? (directory ++ [temporaryName target.name number]) = none
  renamed : (base.withFile (directory ++ [temporaryName target.name number])
    bytes).rename ((base.absolute target.parent).child
      (temporaryName target.name number)) target = .ok after

/-- The first part of a replacement fails and has made directories only, or it
has made a temporary file, too. -/
theorem makeTemporary_cases (wellFormed : tree.WellFormed) :
    (∃ failure base,
      (makeTemporary device target).run tree = (.error failure, base) ∧
      ((ensureDirectory target.parent device).run tree).2 = base ∧
      base.WellFormed ∧ tree.OnlyAlong target.parent base) ∨
    ∃ base directory number,
      (ensureDirectory target.parent device).run tree = (.ok ⟨⟩, base) ∧
      base.WellFormed ∧ tree.OnlyAlong target.parent base ∧
      PathName.check ((base.absolute target.parent).child
        (temporaryName target.name number)).toText = .ok () ∧
      base.Leads ((base.absolute target.parent).child
        (temporaryName target.name number)) directory
          (temporaryName target.name number) ∧
      base.node? (directory ++ [temporaryName target.name number]) = none ∧
      device.refuses .create = none ∧
      (makeTemporary device target).run tree =
        (.ok ((base.absolute target.parent).child
            (temporaryName target.name number), base.nextIdentity),
          (base.createAt
            (directory ++ [temporaryName target.name number])).2) := by
  rcases ensured : (ensureDirectory target.parent device).run tree with
    ⟨result, base⟩
  have added := addsAlong_ensureDirectory target.parent device tree wellFormed
  rw [ensured] at added
  obtain ⟨wellFormedBase, only⟩ :
    base.WellFormed ∧ tree.OnlyAlong target.parent base := added
  cases result with
  | error failure =>
      rw [makeTemporary, run_bind_of_error ensured]
      exact .inl ⟨failure, base, rfl, rfl, wellFormedBase, only⟩
  | ok value =>
      rw [makeTemporary, run_bind_of_ok ensured, run_bind_of_ok (run_get base)]
      rcases createTemporary_cases wellFormedBase target base.nextIdentity
          tagCount with
        ⟨failure, ends⟩ |
          ⟨temporary, directory, number, rfl, valid, leads, absent, takesNew,
            ends⟩
      · exact .inl ⟨failure, base, ends, rfl, wellFormedBase, only⟩
      · exact .inr ⟨base, directory, number, rfl, wellFormedBase, only, valid,
          leads, absent, takesNew, ends⟩

/-- A replacement goes through all its steps, or it spares its target. -/
theorem replaceText_steps (wellFormed : tree.WellFormed) (text : Text) :
    (∃ failure after, (replaceText device target text).run tree =
        (.error failure, after) ∧ SparesTarget target failure tree after) ∨
    ∃ bytes base after directory number,
      (replaceText device target text).run tree = (.ok ⟨⟩, after) ∧
      Utf8.encode text = .ok bytes ∧
      GoesThrough device target bytes tree base after directory number := by
  rw [replaceText]
  rcases makeTemporary_cases target wellFormed with
    ⟨failure, base, fails, -, wellFormedBase, only⟩ |
      ⟨base, directory, number, ensured, wellFormedBase, only, valid, leads,
        absent, takesNew, makes⟩
  · rw [run_bind_of_error fails]
    exact .inl ⟨failure, base, rfl, .of_onlyAlong_trans target wellFormedBase
      only (.refl target failure wellFormedBase)⟩
  · rw [run_bind_of_ok makes]
    -- From here on the temporary file exists: it is renamed, or it is removed
    -- and the files are as before, or it stays because nothing can be written.
    have fills := fills_fillTemporary device target text
      ((base.absolute target.parent).child
        (temporaryName target.name number), base.nextIdentity)
      (base.createAt (directory ++ [temporaryName target.name number])).2
    generalize ExceptT.run (fillTemporary device target text _) _ = outcome
      at fills ⊢
    cases fills with
    | unencodable =>
        exact .inl ⟨_, _, rfl, .of_onlyAlong_trans target wellFormedBase only
          (.of_encoding target wellFormedBase _ leads absent)⟩
    | removed =>
        have nodes := FileTree.node?_remove wellFormedBase leads absent
        exact .inl ⟨_, _, rfl, .of_onlyAlong_trans target wellFormedBase only
          (.of_sameFilesBut target
            (FileTree.sameFilesBut_remove wellFormedBase leads absent _)
            fun path here => (nodes _ path).symm.trans here)⟩
    | moved encoded renamed taken =>
        refine .inr ⟨_, base, _, directory, number, rfl, encoded,
          ⟨fun step => ?_, ensured, wellFormedBase, only, valid, leads, absent,
            renamed⟩⟩
        by_cases isCreate : step = .create
        · rw [isCreate, takesNew]
        · exact taken step isCreate

/-- A target is replaced as a whole by a new file, or it is spared. -/
theorem replaceText_cases (wellFormed : tree.WellFormed) (text : Text) :
    (∃ failure after, (replaceText device target text).run tree =
        (.error failure, after) ∧ SparesTarget target failure tree after) ∨
    ∃ bytes place after, (replaceText device target text).run tree =
        (.ok ⟨⟩, after) ∧ Utf8.encode text = .ok bytes ∧
      tree.Replaced target bytes place after ∧
      after.node? place = some (.file tree.nextIdentity bytes) := by
  rcases replaceText_steps target wellFormed text with
    spares | ⟨bytes, base, after, directory, number, ends, encoded, steps⟩
  · exact .inl spares
  · obtain ⟨place, replaced, nodes⟩ := FileTree.exists_replaced
      steps.wellFormed steps.leads steps.absent
      (temporaryName_ne target.name number) steps.renamed
    refine .inr ⟨bytes, place, after, ends, encoded,
      .of_onlyAlong_trans steps.only replaced, ?_⟩
    rw [nodes, if_pos rfl, steps.only.nextIdentity]

end Targets

end FileAction

end VestingContract
