import VestingContract.Proofs.File.Replacing
import VestingContract.Proofs.Run.Agreement

/-!
# Trees that differ in log files only

Two trees are alike but for the contents of some files.  Paths lead to the
same places in both, and work on files that does not read one of these files
ends in the same way and leaves trees that are alike again.
-/

namespace VestingContract

/-- What stands at a place of two trees that are alike but for the contents of
some files. -/
inductive NodesAlike (isLog : Nat → Prop) : Option Node → Option Node → Prop
  | none : NodesAlike isLog none none
  | directory : NodesAlike isLog (some .directory) (some .directory)
  | file {identity : Nat} {content other : List UInt8}
      (same : ¬ isLog identity → content = other) :
      NodesAlike isLog (some (.file identity content))
        (some (.file identity other))

/-- Where a path leads in two trees that are alike. -/
inductive PlacesAlike (isLog : Nat → Prop) :
    Except SystemError Place → Except SystemError Place → Prop
  | error (error : SystemError) : PlacesAlike isLog (.error error) (.error error)
  | directory (path : List Text) :
      PlacesAlike isLog (.ok (.present path .directory))
        (.ok (.present path .directory))
  | file (path : List Text) {identity : Nat} {content other : List UInt8}
      (same : ¬ isLog identity → content = other) :
      PlacesAlike isLog (.ok (.present path (.file identity content)))
        (.ok (.present path (.file identity other)))
  | free (directory : List Text) (name : Text) :
      PlacesAlike isLog (.ok (.free directory name))
        (.ok (.free directory name))

/-- Two results with the same error, or with values that are related. -/
inductive ResultsRelated {ε α : Type} (related : α → α → Prop) :
    Except ε α → Except ε α → Prop
  | ok {value other : α} (holds : related value other) :
      ResultsRelated related (.ok value) (.ok other)
  | error (error : ε) : ResultsRelated related (.error error) (.error error)

theorem NodesAlike.refl {isLog : Nat → Prop} (node : Option Node) :
    NodesAlike isLog node node := by
  rcases node with _ | (_ | ⟨identity, content⟩)
  · exact .none
  · exact .directory
  · exact .file fun _ => rfl

theorem NodesAlike.symm {isLog : Nat → Prop} {node other : Option Node}
    (alike : NodesAlike isLog node other) : NodesAlike isLog other node := by
  cases alike with
  | none => exact .none
  | directory => exact .directory
  | file same => exact .file fun apart => (same apart).symm

theorem NodesAlike.mono {isLog others : Nat → Prop} {node other : Option Node}
    (alike : NodesAlike isLog node other)
    (includes : ∀ identity, isLog identity → others identity) :
    NodesAlike others node other := by
  cases alike with
  | none => exact .none
  | directory => exact .directory
  | file same => exact .file fun apart => same (mt (includes _) apart)

theorem NodesAlike.append {isLog : Nat → Prop} {node other : Option Node}
    (alike : NodesAlike isLog node other) {identity : Nat}
    (known : isLog identity) (bytes : List UInt8) :
    NodesAlike isLog (node.map (·.append identity bytes)) other := by
  cases alike with
  | none => exact .none
  | directory => exact .directory
  | @file owner content other same =>
      rw [Option.map_some, Node.append]
      split
      · next isOwner =>
          exact .file fun apart => absurd (isOwner ▸ known) apart
      · exact .file same

theorem NodesAlike.append_both {isLog : Nat → Prop} {node other : Option Node}
    (alike : NodesAlike isLog node other) (identity : Nat)
    (bytes : List UInt8) :
    NodesAlike isLog (node.map (·.append identity bytes))
      (other.map (·.append identity bytes)) := by
  cases alike with
  | none => exact .none
  | directory => exact .directory
  | @file owner content other same =>
      rw [Option.map_some, Option.map_some, Node.append, Node.append]
      split
      · exact .file fun apart => by rw [same apart]
      · exact .file same

namespace FileTree

/-- Two trees are alike but for the contents of log files. -/
structure AlikeBut (isLog : Nat → Prop) (tree other : FileTree) : Prop where
  nodes : ∀ path, NodesAlike isLog (tree.node? path) (other.node? path)
  nextIdentity : other.nextIdentity = tree.nextIdentity
  workingDirectory : other.workingDirectory = tree.workingDirectory

namespace AlikeBut

variable {isLog : Nat → Prop} {tree other : FileTree}

theorem refl (tree : FileTree) : tree.AlikeBut isLog tree :=
  ⟨fun path => .refl (tree.node? path), rfl, rfl⟩

theorem symm (alike : tree.AlikeBut isLog other) :
    other.AlikeBut isLog tree :=
  ⟨fun path => (alike.nodes path).symm, alike.nextIdentity.symm,
    alike.workingDirectory.symm⟩

theorem mono {others : Nat → Prop} (alike : tree.AlikeBut isLog other)
    (includes : ∀ identity, isLog identity → others identity) :
    tree.AlikeBut others other :=
  ⟨fun path => (alike.nodes path).mono includes, alike.nextIdentity,
    alike.workingDirectory⟩

theorem append_left (alike : tree.AlikeBut isLog other) {identity : Nat}
    (isKnown : isLog identity) (bytes : List UInt8) :
    (tree.append identity bytes).AlikeBut isLog other := by
  refine ⟨fun path => ?_, alike.nextIdentity, alike.workingDirectory⟩
  rw [node?_append]
  exact (alike.nodes path).append isKnown bytes

theorem append (alike : tree.AlikeBut isLog other) (identity : Nat)
    (bytes : List UInt8) :
    (tree.append identity bytes).AlikeBut isLog
      (other.append identity bytes) := by
  refine ⟨fun path => ?_, alike.nextIdentity, alike.workingDirectory⟩
  rw [node?_append, node?_append]
  exact (alike.nodes path).append_both identity bytes

theorem put (alike : tree.AlikeBut isLog other) {path : List Text}
    (notRoot : path ≠ []) {node otherNode : Node}
    (nodesAlike : NodesAlike isLog (some node) (some otherNode)) :
    (tree.put path node).AlikeBut isLog (other.put path otherNode) := by
  refine ⟨fun place => ?_, alike.nextIdentity, alike.workingDirectory⟩
  rw [node?_put tree place notRoot, node?_put other place notRoot]
  split
  · exact nodesAlike
  · exact alike.nodes place

theorem erase (alike : tree.AlikeBut isLog other) (path : List Text) :
    (tree.erase path).AlikeBut isLog (other.erase path) := by
  refine ⟨fun place => ?_, alike.nextIdentity, alike.workingDirectory⟩
  by_cases isRoot : path = []
  · -- Without the root nothing else is left.
    have empty : ∀ tree : FileTree, (tree.erase []).node? place =
        if place = [] then some .directory else none := by
      intro tree
      split
      · next isPlace => rw [isPlace, node?_nil]
      · next isPlace =>
          rw [node?_of_ne_nil _ _ isPlace, FileTree.erase]
          simp
    rw [isRoot, empty, empty]
    exact .refl _
  · rw [node?_erase tree place isRoot, node?_erase other place isRoot]
    split
    · exact .none
    · exact alike.nodes place

theorem createAt (alike : tree.AlikeBut isLog other) {path : List Text}
    (notRoot : path ≠ []) :
    (tree.createAt path).1 = (other.createAt path).1 ∧
      (tree.createAt path).2.AlikeBut isLog (other.createAt path).2 := by
  refine ⟨alike.nextIdentity.symm, fun place => ?_,
    congrArg (· + 1) alike.nextIdentity, alike.workingDirectory⟩
  rw [node?_createAt tree notRoot, node?_createAt other notRoot,
    alike.nextIdentity]
  split
  · exact .refl _
  · exact alike.nodes place

theorem walk (alike : tree.AlikeBut isLog other)
    (current names : List Text) :
    PlacesAlike isLog (tree.walk current names) (other.walk current names) := by
  induction names generalizing current with
  | nil =>
      rw [FileTree.walk, FileTree.walk]
      have here := alike.nodes current
      generalize tree.node? current = node at here ⊢
      generalize other.node? current = otherNode at here ⊢
      cases here with
      | none => exact .error _
      | directory => exact .directory _
      | file same => exact .file _ same
  | cons name rest ih =>
      rw [FileTree.walk, FileTree.walk]
      have here := alike.nodes current
      generalize tree.node? current = node at here ⊢
      generalize other.node? current = otherNode at here ⊢
      cases here with
      | none => exact .error _
      | file same => exact .error _
      | directory =>
          simp only
          split
          · exact .error _
          · split
            · exact ih _
            · have below := alike.nodes (current ++ [name])
              have later := ih (current ++ [name])
              generalize tree.node? (current ++ [name]) = node at below ⊢
              generalize other.node? (current ++ [name]) = otherNode
                at below ⊢
              cases below with
              | none =>
                  cases rest with
                  | nil => exact .free _ _
                  | cons second rest => exact .error _
              | directory => exact later
              | file same => exact later

theorem find (alike : tree.AlikeBut isLog other) (path : PathName) :
    PlacesAlike isLog (tree.find path) (other.find path) := by
  rw [FileTree.find, FileTree.find, alike.workingDirectory]
  split
  · exact .error _
  · exact alike.walk _ _

theorem makeDirectory (alike : tree.AlikeBut isLog other) (path : PathName) :
    ResultsRelated (AlikeBut isLog) (tree.makeDirectory path)
      (other.makeDirectory path) := by
  have found := alike.find path
  rw [FileTree.makeDirectory, FileTree.makeDirectory]
  generalize tree.find path = place at found ⊢
  generalize other.find path = otherPlace at found ⊢
  cases found with
  | error error => exact .error error
  | directory => exact .error _
  | file => exact .error _
  | free directory name => exact .ok (alike.put (by simp) .directory)

theorem createNew (alike : tree.AlikeBut isLog other) (path : PathName) :
    ResultsRelated (fun created second => created.1 = second.1 ∧
        created.2.AlikeBut isLog second.2)
      (tree.createNew path) (other.createNew path) := by
  have found := alike.find path
  rw [FileTree.createNew, FileTree.createNew]
  generalize tree.find path = place at found ⊢
  generalize other.find path = otherPlace at found ⊢
  cases found with
  | error error => exact .error error
  | directory => exact .error _
  | file => exact .error _
  | free directory name => exact .ok (alike.createAt (by simp))

theorem openToAppend (alike : tree.AlikeBut isLog other) (path : PathName) :
    ResultsRelated (fun opened second => opened.1 = second.1 ∧
        opened.2.AlikeBut isLog second.2)
      (tree.openToAppend path) (other.openToAppend path) := by
  have found := alike.find path
  rw [FileTree.openToAppend, FileTree.openToAppend]
  generalize tree.find path = place at found ⊢
  generalize other.find path = otherPlace at found ⊢
  cases found with
  | error error => exact .error error
  | directory => exact .error _
  | file => exact .ok ⟨rfl, alike⟩
  | free directory name => exact .ok (alike.createAt (by simp))

theorem remove (alike : tree.AlikeBut isLog other) (path : PathName) :
    (tree.remove path).AlikeBut isLog (other.remove path) := by
  have found := alike.find path
  rw [FileTree.remove, FileTree.remove]
  generalize tree.find path = place at found ⊢
  generalize other.find path = otherPlace at found ⊢
  cases found with
  | error => exact alike
  | directory => exact alike.erase _
  | file => exact alike.erase _
  | free => exact alike

theorem ne_nil_of_find_file {path : PathName} {place : List Text}
    {identity : Nat} {content : List UInt8}
    (found : tree.find path = .ok (.present place (.file identity content))) :
    place ≠ [] := by
  rintro rfl
  have here := node?_of_find found
  rw [node?_nil] at here
  cases here

theorem rename (alike : tree.AlikeBut isLog other)
    (source target : PathName) :
    ResultsRelated (AlikeBut isLog) (tree.rename source target)
      (other.rename source target) := by
  have found := alike.find source
  have goal := alike.find target
  have notRoot : ∀ place identity content,
      tree.find target = .ok (.present place (.file identity content)) →
        place ≠ [] := fun _ _ _ => ne_nil_of_find_file
  rw [FileTree.rename, FileTree.rename]
  generalize tree.find source = place at found ⊢
  generalize other.find source = otherPlace at found ⊢
  generalize tree.find target = end_ at goal notRoot ⊢
  generalize other.find target = otherEnd at goal ⊢
  cases found with
  | error error => exact .error error
  | directory => exact .error _
  | free => exact .error _
  | file path same =>
      cases goal with
      | error error => exact .error error
      | directory =>
          simp only [bind, Except.bind]
          split <;> exact .error _
      | file goal =>
          simp only [bind, Except.bind]
          split
          · exact .error _
          · exact .ok ((alike.erase path).put (notRoot goal _ _ rfl)
              (.file same))
      | free directory name =>
          simp only [bind, Except.bind]
          split
          · exact .error _
          · exact .ok ((alike.erase path).put (by simp) (.file same))

end AlikeBut

end FileTree

namespace FileAction

open FileTree Stateful

variable {isLog : Nat → Prop}

section Operations

variable {α : Type} (path : PathName)

theorem lookedUp_related {related : α → α → Prop}
    {found other : Except SystemError α}
    (alike : ResultsRelated related found other) :
    ResultsRelated related (lookedUp path found) (lookedUp path other) := by
  unfold lookedUp
  split
  · exact .error _
  · cases alike with
    | ok holds => exact .ok holds
    | error error => exact .error _

theorem indifferent_ofChange
    {operation : FileTree → Except SystemError FileTree}
    (alike : ∀ tree other, tree.AlikeBut isLog other →
      ResultsRelated (AlikeBut isLog) (operation tree) (operation other)) :
    Indifferent (AlikeBut isLog) (ofChange path operation) := by
  intro tree other related
  have looked := lookedUp_related path (alike tree other related)
  rw [run_ofChange, run_ofChange]
  generalize lookedUp path (operation tree) = found at looked ⊢
  generalize lookedUp path (operation other) = otherFound at looked ⊢
  cases looked with
  | ok holds => exact ⟨_, _, _, rfl, rfl, holds⟩
  | error failure => exact ⟨_, _, _, rfl, rfl, related⟩

theorem indifferent_ofUpdate
    {operation : FileTree → Except SystemError (α × FileTree)}
    (alike : ∀ tree other, tree.AlikeBut isLog other →
      ResultsRelated (fun update second => update.1 = second.1 ∧
        update.2.AlikeBut isLog second.2)
        (operation tree) (operation other)) :
    Indifferent (AlikeBut isLog) (ofUpdate path operation) := by
  intro tree other related
  have looked := lookedUp_related path (alike tree other related)
  rw [run_ofUpdate, run_ofUpdate]
  generalize lookedUp path (operation tree) = found at looked ⊢
  generalize lookedUp path (operation other) = otherFound at looked ⊢
  cases looked with
  | error failure => exact ⟨_, _, _, rfl, rfl, related⟩
  | @ok update second holds =>
      obtain ⟨value, after⟩ := update
      obtain ⟨same, otherAfter⟩ := second
      obtain ⟨rfl, alikeAfter⟩ := holds
      exact ⟨_, _, _, rfl, rfl, alikeAfter⟩

theorem seen_alike {tree other : FileTree}
    (alike : tree.AlikeBut isLog other) :
    seen path tree = seen path other ∨
      ∃ identity content bytes,
        seen path tree = .ok (some (.file identity content)) ∧
        seen path other = .ok (some (.file identity bytes)) := by
  have found := alike.find path
  unfold seen
  generalize tree.find path = place at found ⊢
  generalize other.find path = otherPlace at found ⊢
  split
  · exact .inl rfl
  · cases found with
    | error error => exact .inl rfl
    | directory => exact .inl rfl
    | file => exact .inr ⟨_, _, _, rfl, rfl⟩
    | free => exact .inl rfl

theorem indifferent_openToAppend :
    Indifferent (AlikeBut isLog) (openToAppend path) :=
  indifferent_ofUpdate path fun _ _ related => related.openToAppend path

/-- Work that asks what stands at a path, but not for the content of a file,
is indifferent to log files. -/
theorem indifferent_node?_bind {next : Option Node → FileAction α}
    (same : ∀ identity content bytes, next (some (.file identity content)) =
      next (some (.file identity bytes)))
    (indifferent : ∀ node, Indifferent (AlikeBut isLog) (next node)) :
    Indifferent (AlikeBut isLog) (node? path >>= next) := by
  intro tree other related
  have looked := run_node? path tree
  have lookedOther := run_node? path other
  rcases seen_alike path related with
    seenEq | ⟨identity, content, bytes, seenEq, seenOther⟩
  · rw [← seenEq] at lookedOther
    cases found : seen path tree with
    | error failure =>
        rw [found] at looked lookedOther
        rw [run_bind_of_error looked, run_bind_of_error lookedOther]
        exact ⟨_, _, _, rfl, rfl, related⟩
    | ok node =>
        rw [found] at looked lookedOther
        rw [run_bind_of_ok looked, run_bind_of_ok lookedOther]
        exact indifferent node tree other related
  · rw [seenEq] at looked
    rw [seenOther] at lookedOther
    rw [run_bind_of_ok looked, run_bind_of_ok lookedOther,
      same identity bytes content]
    exact indifferent _ tree other related

theorem indifferent_pathExists :
    Indifferent (AlikeBut isLog) (pathExists path) :=
  indifferent_node?_bind path (fun _ _ _ => rfl) fun _ =>
    .pure fun _ _ related => related

theorem indifferent_isFile : Indifferent (AlikeBut isLog) (isFile path) :=
  indifferent_node?_bind path (fun _ _ _ => rfl) fun node => by
    split <;> exact .pure fun _ _ related => related

theorem indifferent_isDirectory :
    Indifferent (AlikeBut isLog) (isDirectory path) :=
  indifferent_node?_bind path (fun _ _ _ => rfl) fun node => by
    split <;> exact .pure fun _ _ related => related

theorem agrees_read :
    Agrees (fun tree other => tree.AlikeBut isLog other ∧
        ∀ identity, isLog identity → tree.Avoids path identity)
      (read path) (fun _ => AlikeBut isLog) (AlikeBut isLog) := by
  rintro tree other ⟨related, noLog⟩
  have readsSame : tree.read path = other.read path := by
    have found := related.find path
    unfold Avoids at noLog
    rw [FileTree.read, FileTree.read]
    generalize tree.find path = place at found noLog ⊢
    generalize other.find path = otherPlace at found ⊢
    cases found with
    | error => rfl
    | directory => rfl
    | file place same =>
        rw [same fun isLog => noLog _ isLog place _ rfl]
    | free => rfl
  rw [run_read, run_read, readsSame]
  cases lookedUp path (other.read path) <;>
    exact ⟨_, _, _, rfl, rfl, related⟩

end Operations

section Directories

/-- A device refuses the same operations on trees that are alike. -/
theorem resultsRelated_unlessRefused {α : Type} {relation : α → α → Prop}
    {result other : Except SystemError α}
    (related : ResultsRelated relation result other)
    (refused : Option SystemError) :
    ResultsRelated relation (Device.unlessRefused refused result)
      (Device.unlessRefused refused other) := by
  cases related with
  | error error => exact .error error
  | ok holds =>
      cases refused with
      | none => exact .ok holds
      | some error => exact .error error

theorem indifferent_ensureOne (path : PathName) (device : Device) :
    Indifferent (AlikeBut isLog) (ensureOne path device) := by
  have makes : Indifferent (AlikeBut isLog) (makeDirectory path device) :=
    indifferent_ofChange path fun _ _ related =>
      resultsRelated_unlessRefused (related.makeDirectory path) _
  refine makes.tryCatch fun failure => ?_
  split
  · exact .throw fun _ _ related => related
  · exact .throw fun _ _ related => related
  · refine (indifferent_isDirectory path).bind fun isThere => ?_
    cases isThere with
    | false => exact .throw fun _ _ related => related
    | true => exact .pure fun _ _ related => related

theorem indifferent_ensureReversed (device : Device) (slashes : Nat)
    (names : List Text) :
    Indifferent (AlikeBut isLog) (ensureReversed device slashes names) := by
  induction names with
  | nil => exact indifferent_ensureOne _ _
  | cons last above ih =>
      rw [ensureReversed]
      refine (indifferent_ensureOne _ _).tryCatch fun failure => ?_
      split
      · exact ih.bind fun _ => indifferent_ensureOne _ _
      · exact .throw fun _ _ related => related

theorem indifferent_ensureDirectory (path : PathName) (device : Device) :
    Indifferent (AlikeBut isLog) (ensureDirectory path device) :=
  indifferent_ensureReversed device path.slashes path.names.reverse

end Directories

section Replacing

variable (device : Device)

theorem indifferent_createTemporary (target : PathName)
    (number attempts : Nat) :
    Indifferent (AlikeBut isLog)
      (createTemporary device target number attempts) := by
  induction attempts generalizing number with
  | zero => exact .throw fun _ _ related => related
  | succ attempts ih =>
      rw [createTemporary]
      apply Agrees.get_bind
      · intro tree other related
        rw [absolute_congr related.workingDirectory]
      · intro tree
        apply Agrees.of_begins (fun _ _ => And.left)
        have creates : ∀ path : PathName, Indifferent (AlikeBut isLog)
            (ofUpdate path (device.createNew · path) >>= fun identity =>
              pure (path, identity) : FileAction (PathName × Nat)) :=
          fun path => (indifferent_ofUpdate path fun _ _ related =>
            resultsRelated_unlessRefused (related.createNew path) _).bind
              fun _ => .pure fun _ _ related => related
        refine (creates _).tryCatch fun failure => ?_
        split
        · exact ih (number + 1)
        · exact .throw fun _ _ related => related

theorem indifferent_makeTemporary (target : PathName) :
    Indifferent (AlikeBut isLog) (makeTemporary device target) := by
  refine (indifferent_ensureDirectory target.parent device).bind fun _ => ?_
  apply Agrees.get_bind
  · intro tree other related
    rw [related.nextIdentity]
  · intro tree
    apply Agrees.of_begins (fun _ _ => And.left)
    exact indifferent_createTemporary device target _ _

theorem indifferent_rename (source target : PathName) :
    Indifferent (AlikeBut isLog) (rename device source target) := by
  intro tree other related
  have renamed := resultsRelated_unlessRefused (related.rename source target)
    (device.refuses .rename)
  rw [run_rename, run_rename, Device.rename, Device.rename]
  generalize Device.unlessRefused _ (tree.rename source target) = result
    at renamed ⊢
  generalize Device.unlessRefused _ (other.rename source target) = otherResult
    at renamed ⊢
  cases renamed with
  | ok holds => exact ⟨_, _, _, rfl, rfl, holds⟩
  | error error => exact ⟨_, _, _, rfl, rfl, related⟩

theorem indifferent_step (step : DeviceStep) :
    Indifferent (AlikeBut isLog) (FileAction.step device step) := by
  rw [FileAction.step]
  split
  · exact .throw fun _ _ related => related
  · exact .pure fun _ _ related => related

theorem indifferent_append (identity : Nat) (bytes : List UInt8) :
    Indifferent (AlikeBut isLog) (append identity bytes) :=
  .modify fun _ _ related => related.append identity bytes

theorem indifferent_writeText (identity : Nat) (text : Text) :
    Indifferent (AlikeBut isLog) (writeText device identity text) := by
  have writes : Indifferent (AlikeBut isLog)
      (writeBytes device identity text) := by
    rw [writeBytes]
    split
    · exact .throw fun _ _ related => related
    · exact (indifferent_append _ _).bind fun _ =>
        (indifferent_step device _).bind fun _ =>
          (indifferent_step device _).bind fun _ =>
            (indifferent_append _ _).bind fun _ => indifferent_step device _
  refine (indifferent_step device _).bind fun _ => ?_
  refine (writes.tryCatch fun failure => ?_).bind fun _ =>
    indifferent_step device _
  exact (indifferent_step device _).bind fun _ =>
    .throw fun _ _ related => related

theorem indifferent_replaceText (target : PathName) (text : Text) :
    Indifferent (AlikeBut isLog) (replaceText device target text) := by
  refine (indifferent_makeTemporary device target).bind fun created => ?_
  have fills : Indifferent (AlikeBut isLog) (do
      writeText device created.2 text
      rename device created.1 target) :=
    (indifferent_writeText device created.2 text).bind fun _ =>
      indifferent_rename device created.1 target
  refine fills.tryCatch fun failure => ?_
  have removes : Indifferent (AlikeBut isLog) (remove created.1) :=
    .modify fun _ _ related => related.remove created.1
  cases failure with
  | file => exact removes.bind fun _ => .throw fun _ _ related => related
  | _ => exact .throw fun _ _ related => related

end Replacing

end FileAction

end VestingContract
