import VestingContract.Proofs.File.Replacing

/-!
# The whole tree after a replacement

A replacement that succeeds adds the directories above its target that were
missing, gives the target its bytes, and changes nothing else in the tree.
One that fails leaves everything that was there, and it puts no file where its
target leads.
-/

namespace VestingContract

namespace FileTree

variable {tree after : FileTree} {target : PathName}

/-- The directories after a replacement are the ones that were there before,
with the ones above the target. -/
theorem Replaced.node?_directory_iff {bytes : List UInt8} {place : List Text}
    (replaced : tree.Replaced target bytes place after) (path : List Text) :
    after.node? path = some .directory ↔
      tree.node? path = some .directory ∨
        tree.LiesOn target.parent path := by
  refine ⟨replaced.along path, ?_⟩
  rintro (here | lies)
  · exact replaced.directories.directories path here
  · obtain ⟨identity, found⟩ := replaced.found
    obtain ⟨directory, name, leads, -, -⟩ :=
      replaced.wellFormed.exists_leads_of_file found
    apply replaced.wellFormed.node?_of_liesOn leads
    rwa [liesOn_congr replaced.directories.workingDirectory]

/-- The places above a path without steps upward have fewer names. -/
theorem WellFormed.ne_absolute_of_liesOn (wellFormed : tree.WellFormed)
    (noStep : (".." : Text) ∉ target.names) (nonempty : target.names ≠ [])
    {place : List Text} (lies : tree.LiesOn target.parent place) :
    place ≠ (tree.absolute target).names := by
  obtain ⟨above, rest, parts, rfl⟩ := lies
  have noStepAbove : (".." : Text) ∉ above := by
    intro member
    apply noStep
    apply List.dropLast_subset
    change _ ∈ target.parent.names
    rw [parts]
    exact List.mem_append_left rest member
  have sameStart : tree.start { target.parent with names := above } =
    tree.start target := rfl
  rw [wellFormed.names_absolute_of_not_mem noStep,
    wellFormed.names_absolute_of_not_mem noStepAbove, sameStart]
  intro same
  have aboveEq : above = target.names := List.append_cancel_left same
  have lengths := congrArg List.length parts
  rw [aboveEq, PathName.parent, List.length_dropLast, List.length_append]
    at lengths
  have := List.length_pos_iff.mpr nonempty
  omega

/-- Everything that was there is still there. -/
def Keeps (tree after : FileTree) : Prop :=
  ∀ path node, tree.node? path = some node → after.node? path = some node

/-- What a path leads to is still there if everything is. -/
theorem Keeps.find (keeps : tree.Keeps after) (wellFormed : tree.WellFormed)
    (kept : tree.KeepsDirectories after) {place : List Text} {node : Node}
    (found : tree.find target = .ok (.present place node)) :
    after.find target = .ok (.present place node) := by
  cases node with
  | directory => exact kept.find found
  | file identity content =>
      obtain ⟨directory, name, leads, rfl, here⟩ :=
        wellFormed.exists_leads_of_file found
      rw [(leads.of_keepsDirectories kept).find,
        placeAt_of_some (keeps _ _ here)]

/-- Nothing that was there has changed, and no file has come to where a path
leads. -/
structure LeavesOld (target : PathName) (tree after : FileTree) : Prop where
  keeps : tree.Keeps after
  /-- What stood at the path is still found there. -/
  stays : ∀ place node, tree.find target = .ok (.present place node) →
    after.find target = .ok (.present place node)
  /-- A file that is found at the path was there before. -/
  noFile : ∀ place identity content,
    after.find target = .ok (.present place (.file identity content)) →
      tree.node? place = some (.file identity content)
  /-- Where there was nothing there is nothing, if the path goes straight
  down. -/
  nothing : (".." : Text) ∉ target.names →
    (∀ place node, tree.find target ≠ .ok (.present place node)) →
    ∀ place node, after.find target ≠ .ok (.present place node)

end FileTree

namespace FileAction

open FileTree

variable {tree after : FileTree} {target : PathName}

theorem SparesTarget.keeps {failure : FileFailure}
    (spares : SparesTarget target failure tree after) : tree.Keeps after := by
  intro path node here
  cases node with
  | directory => exact spares.spares.directories.directories path here
  | file identity content =>
      exact spares.spares.keeps path identity content here

theorem SparesTarget.leavesOld {failure : FileFailure}
    (wellFormed : tree.WellFormed)
    (spares : SparesTarget target failure tree after) :
    LeavesOld target tree after := by
  have kept := spares.spares.directories
  have wellFormedAfter := spares.spares.wellFormed
  refine ⟨spares.keeps, fun place node found => ?_,
    fun place identity content found => ?_, fun noStep nothing => ?_⟩
  · exact spares.keeps.find wellFormed kept found
  · exact spares.spares.node?_of_find found
  · intro place node found
    have placeEq : place = (tree.absolute target).names := by
      rw [← kept.absolute_eq]
      exact wellFormedAfter.path_eq_absolute found
    have present : ∀ old, tree.node? place ≠ some old := fun old here =>
      nothing place old (wellFormed.find_of_node? kept.workingDirectory
        noStep found here)
    cases node with
    | file identity content =>
        exact present _ (spares.spares.node?_of_find found)
    | directory =>
        rcases spares.along place (node?_of_find found) with before | lies
        · exact present _ before
        · by_cases isStart : target.names = []
          · -- The directory that a path is followed from is always there.
            rw [wellFormed.names_absolute_of_not_mem noStep, isStart,
              List.append_nil] at placeEq
            exact present _ (placeEq ▸ wellFormed.node?_start target)
          · exact wellFormed.ne_absolute_of_liesOn noStep isStart lies placeEq

/-- A target is old or new, whatever the device makes of the steps.  If its
replacement succeeds, the target leads to a file with the text in UTF-8, every
other file is as it was, none is new, and the directories are those from before
with the ones above the target.  If it fails, everything that was there is
still there, and no file has come to where the target leads. -/
theorem replaceText_oldOrNew (wellFormed : tree.WellFormed)
    (device : Device) (target : PathName) (text : Text) :
    (∃ bytes identity after,
      (replaceText device target text).run tree = (.ok ⟨⟩, after) ∧
      Utf8.encode text = .ok bytes ∧
      after.find target = .ok (.present (tree.absolute target).names
        (.file identity bytes)) ∧
      (∀ path, path ≠ (tree.absolute target).names → ∀ other content,
        after.node? path = some (.file other content) ↔
          tree.node? path = some (.file other content)) ∧
      ∀ path, after.node? path = some .directory ↔
        tree.node? path = some .directory ∨
          tree.LiesOn target.parent path) ∨
    ∃ failure after,
      (replaceText device target text).run tree = (.error failure, after) ∧
      LeavesOld target tree after := by
  rcases replaceText_cases target wellFormed text with
    ⟨failure, after, fails, spares⟩ |
      ⟨bytes, place, after, ends, encoded, replaced, -⟩
  · exact .inr ⟨failure, after, fails, spares.leavesOld wellFormed⟩
  · obtain rfl := replaced.place_eq
    obtain ⟨identity, found⟩ := replaced.found
    exact .inl ⟨bytes, identity, after, ends, encoded, found,
      replaced.others, replaced.node?_directory_iff⟩

section Siblings

/-- Two files in the root. -/
def siblings : FileTree :=
  ⟨[([("data.json" : Text)], .file 0 [123]),
    ([("out.sol" : Text)], .file 1 [111])], [], 2⟩

theorem siblings_wellFormed : siblings.WellFormed :=
  wellFormed_pair (by decide) (by decide)

/-- A device that is full after two bytes. -/
def fullDevice : Device :=
  { Device.sound with
    refuses := fun step => if step = .flush then some .noSpace else none
    taken := 2 }

/-- A target below two directories that are missing is made with them, and the
file of its name in the root stays.  On a device that is full the other file is
left as it is. -/
theorem replaceText_oldOrNew_nested :
    (∃ identity after,
      (replaceText .sound ⟨0, ["a", "b", "out.sol"]⟩ "new").run siblings =
        (.ok ⟨⟩, after) ∧
      after.find ⟨0, ["a", "b", "out.sol"]⟩ =
        .ok (.present ["a", "b", "out.sol"]
          (.file identity [110, 101, 119])) ∧
      after.node? ["a", "b"] = some .directory ∧
      after.node? ["out.sol"] = some (.file 1 [111])) ∧
    ∃ failure after,
      (replaceText fullDevice ⟨0, ["out.sol"]⟩ "new").run siblings =
        (.error failure, after) ∧
      after.find ⟨0, ["out.sol"]⟩ =
        .ok (.present ["out.sol"] (.file 1 [111])) := by
  constructor
  · have succeeds : ((replaceText .sound ⟨0, ["a", "b", "out.sol"]⟩
        "new").run siblings).1 = .ok ⟨⟩ := by decide +kernel
    have placeEq : (siblings.absolute ⟨0, ["a", "b", "out.sol"]⟩).names =
        ["a", "b", "out.sol"] := by decide
    rcases replaceText_oldOrNew siblings_wellFormed .sound
        ⟨0, ["a", "b", "out.sol"]⟩ "new" with
      ⟨bytes, identity, after, ends, encoded, found, others, directories⟩ |
        ⟨failure, after, fails, -⟩
    · rw [placeEq] at found others
      obtain rfl : [110, 101, 119] = bytes := by
        have spelled : Utf8.encode "new" = .ok [110, 101, 119] := rfl
        rw [spelled] at encoded
        cases encoded
        rfl
      refine ⟨identity, after, ends, found, ?_, ?_⟩
      · exact (directories _).mpr (.inr ⟨["a", "b"], [], rfl, by decide⟩)
      · exact (others _ (by decide) 1 [111]).mpr (by decide)
    · rw [fails] at succeeds
      cases succeeds
  · have isRefused : ((replaceText fullDevice ⟨0, ["out.sol"]⟩
        "new").run siblings).1.isOk = false := by decide +kernel
    rcases replaceText_oldOrNew siblings_wellFormed fullDevice
        ⟨0, ["out.sol"]⟩ "new" with
      ⟨bytes, identity, after, ends, -⟩ | ⟨failure, after, fails, leaves⟩
    · rw [ends] at isRefused
      cases isRefused
    · exact ⟨failure, after, fails, leaves.stays _ _ (by decide +kernel)⟩

/-- A replacement that fails can still make the directory without which its
target led nowhere. -/
theorem replaceText_opens_detour :
    ¬ ∀ (tree : FileTree) (device : Device) (target : PathName) (text : Text)
      (failure : FileFailure) (after : FileTree), tree.WellFormed →
      (replaceText device target text).run tree = (.error failure, after) →
      (∀ place node, tree.find target ≠ .ok (.present place node)) →
      ∀ place node, after.find target ≠ .ok (.present place node) := by
  intro claim
  let target : PathName := ⟨0, ["d", "..", "out.sol"]⟩
  rcases ends : (replaceText .sound target [.surrogate 0]).run siblings with
    ⟨result, after⟩
  have outcome : ((replaceText .sound target [.surrogate 0]).run
        siblings).1.isOk = false ∧
      ((replaceText .sound target [.surrogate 0]).run siblings).2.find target =
        .ok (.present ["out.sol"] (.file 1 [111])) := by
    decide +kernel
  have missing : siblings.find target = .error .noEntry := by decide +kernel
  rw [ends] at outcome
  obtain ⟨fails, found⟩ := outcome
  cases result with
  | ok value => cases fails
  | error failure =>
      refine claim siblings .sound target [.surrogate 0] failure after
        siblings_wellFormed ends ?_ _ _ found
      intro place node same
      rw [missing] at same
      cases same

end Siblings

end FileAction

end VestingContract
