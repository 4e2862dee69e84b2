import Mathlib.Data.List.Induction
import VestingContract.Proofs.File.Tree

/-!
# Where paths lead

In a well-formed tree everything stands in a directory.  A path that does not
end in a directory then leads to its last name inside a directory, and this
directory and name are the ones that the path spells when it is read without
looking at the tree.
-/

namespace VestingContract

/-- The absolute path of a place. -/
def Place.path : Place → List Text
  | .present path _ => path
  | .free directory name => directory ++ [name]

namespace FileTree

/-- A tree as a system keeps it: everything stands in a directory, no step
upward is a name, the identities beyond the last one are not in use, and the
working directory is there. -/
structure WellFormed (tree : FileTree) : Prop where
  inDirectory : ∀ directory name node,
    tree.node? (directory ++ [name]) = some node →
      tree.node? directory = some .directory
  noStepUpward : ∀ path node, tree.node? path = some node →
    (".." : Text) ∉ path
  fresh : ∀ path identity content,
    tree.node? path = some (.file identity content) →
      identity < tree.nextIdentity
  workingDirectory : tree.node? tree.workingDirectory = some .directory

/-- All directories of a tree are directories of another one, which is seen
from the same directory. -/
structure KeepsDirectories (tree other : FileTree) : Prop where
  directories : ∀ path, tree.node? path = some .directory →
    other.node? path = some .directory
  workingDirectory : other.workingDirectory = tree.workingDirectory

theorem KeepsDirectories.trans {first second third : FileTree}
    (before : first.KeepsDirectories second)
    (after : second.KeepsDirectories third) :
    first.KeepsDirectories third := by
  refine ⟨fun path here => ?_, ?_⟩
  · exact after.directories path (before.directories path here)
  · rw [after.workingDirectory, before.workingDirectory]

theorem keepsDirectories_append (tree : FileTree) (identity : Nat)
    (bytes : List UInt8) :
    tree.KeepsDirectories (tree.append identity bytes) := by
  refine ⟨fun path here => ?_, rfl⟩
  rw [node?_append, here]
  rfl

section Walks

variable {tree other : FileTree} {current names path directory : List Text}
  {name : Text} {node : Node}

/-- What a walk does at its first name: it goes up, it goes on below, or it
ends at a free name that is the last one. -/
theorem cases_of_walk_cons {first : Text} {rest : List Text} {place : Place}
    (walked : tree.walk current (first :: rest) = .ok place) :
    tree.node? current = some .directory ∧
      ¬ nameLimit < PathName.byteSize first ∧
      (first = ".." ∧ tree.walk current.dropLast rest = .ok place ∨
        first ≠ ".." ∧
          (tree.walk (current ++ [first]) rest = .ok place ∧
              tree.node? (current ++ [first]) ≠ none ∨
            tree.node? (current ++ [first]) = none ∧ rest = [] ∧
              place = .free current first)) := by
  rw [walk] at walked
  cases here : tree.node? current with
  | none => simp [here] at walked
  | some found =>
      rw [here] at walked
      cases found with
      | file identity content => cases walked
      | directory =>
          simp only at walked
          split at walked
          · cases walked
          · next short =>
              refine ⟨rfl, short, ?_⟩
              by_cases upward : first = ".."
              · rw [if_pos upward] at walked
                exact .inl ⟨upward, walked⟩
              · rw [if_neg upward] at walked
                refine .inr ⟨upward, ?_⟩
                cases below : tree.node? (current ++ [first]) with
                | some found =>
                    rw [below] at walked
                    exact .inl ⟨walked, by simp⟩
                | none =>
                    rw [below] at walked
                    cases rest with
                    | nil =>
                        cases walked
                        exact .inr ⟨rfl, rfl, rfl⟩
                    | cons second rest => cases walked

theorem walk_nil_eq {place : Place}
    (walked : tree.walk current [] = .ok place) :
    ∃ node, tree.node? current = some node ∧
      place = .present current node := by
  rw [walk] at walked
  cases here : tree.node? current with
  | none => simp [here] at walked
  | some node =>
      rw [here] at walked
      cases walked
      exact ⟨node, rfl, rfl⟩

theorem node?_of_walk (walked : tree.walk current names =
    .ok (.present path node)) : tree.node? path = some node := by
  induction names generalizing current with
  | nil =>
      obtain ⟨found, here, same⟩ := walk_nil_eq walked
      cases same
      exact here
  | cons first rest ih =>
      obtain ⟨-, -, ⟨-, up⟩ | ⟨-, ⟨down, -⟩ | ⟨-, -, free⟩⟩⟩ :=
        cases_of_walk_cons walked
      · exact ih up
      · exact ih down
      · cases free

/-- A walk passes directories only, the first one included. -/
theorem node?_of_walk_directory (walked : tree.walk current names =
    .ok (.present path .directory)) :
    tree.node? current = some .directory := by
  cases names with
  | nil =>
      obtain ⟨found, here, same⟩ := walk_nil_eq walked
      cases same
      exact here
  | cons first rest => exact (cases_of_walk_cons walked).1

/-- A walk to a directory leads there for as long as directories stay. -/
theorem walk_of_keepsDirectories (kept : tree.KeepsDirectories other)
    (walked : tree.walk current names = .ok (.present path .directory)) :
    other.walk current names = .ok (.present path .directory) := by
  induction names generalizing current with
  | nil =>
      have here := kept.directories _ (node?_of_walk_directory walked)
      obtain ⟨found, before, same⟩ := walk_nil_eq walked
      cases same
      rw [walk, here]
  | cons first rest ih =>
      have here := kept.directories _ (node?_of_walk_directory walked)
      obtain ⟨-, short, ⟨upward, up⟩ | ⟨noStep, ⟨down, -⟩ | ⟨-, -, free⟩⟩⟩ :=
        cases_of_walk_cons walked
      · rw [walk, here]
        simp only [if_neg short, if_pos upward]
        exact ih up
      · have below := kept.directories _ (node?_of_walk_directory down)
        rw [walk, here]
        simp only [if_neg short, if_neg noStep, below]
        exact ih down
      · cases free

/-- On its way to a directory a walk passes directories. -/
theorem exists_directory_of_walk {rest : List Text}
    (walked : tree.walk current (names ++ rest) =
      .ok (.present path .directory)) :
    ∃ middle, tree.walk current names = .ok (.present middle .directory) := by
  induction names generalizing current with
  | nil => exact ⟨current, by rw [walk, node?_of_walk_directory walked]⟩
  | cons first names ih =>
      rw [List.cons_append] at walked
      have here := node?_of_walk_directory walked
      obtain ⟨-, short, ⟨upward, up⟩ | ⟨noStep, ⟨down, -⟩ | ⟨-, -, free⟩⟩⟩ :=
        cases_of_walk_cons walked
      · obtain ⟨middle, reached⟩ := ih up
        refine ⟨middle, ?_⟩
        rw [walk, here]
        simp only [if_neg short, if_pos upward]
        exact reached
      · obtain ⟨middle, reached⟩ := ih down
        refine ⟨middle, ?_⟩
        rw [walk, here]
        simp only [if_neg short, if_neg noStep, node?_of_walk_directory down]
        exact reached
      · cases free

/-- A walk reaches the path that is spelled when the tree is not looked at. -/
theorem path_of_walk {place : Place}
    (walked : tree.walk current names = .ok place) :
    place.path = resolveUpward current names := by
  induction names generalizing current with
  | nil =>
      obtain ⟨found, -, same⟩ := walk_nil_eq walked
      rw [same]
      rfl
  | cons first rest ih =>
      obtain ⟨-, -, ⟨upward, up⟩ | ⟨noStep, ⟨down, -⟩ | ⟨-, last, free⟩⟩⟩ :=
        cases_of_walk_cons walked
      · rw [resolveUpward, if_pos upward]
        exact ih up
      · rw [resolveUpward, if_neg noStep]
        exact ih down
      · rw [resolveUpward, if_neg noStep, last, free]
        rfl

theorem resolveUpward_append (noStep : (".." : Text) ∉ names)
    (rest : List Text) :
    resolveUpward current (names ++ rest) =
      resolveUpward (current ++ names) rest := by
  induction names generalizing current with
  | nil => rw [List.append_nil, List.nil_append]
  | cons first names ih =>
      simp only [List.mem_cons, not_or] at noStep
      rw [List.cons_append, resolveUpward, if_neg (Ne.symm noStep.1),
        ih noStep.2, List.append_assoc, List.singleton_append]

/-- Names without a step upward are spelled one below the other. -/
theorem resolveUpward_of_not_mem (noStep : (".." : Text) ∉ names) :
    resolveUpward current names = current ++ names := by
  have resolved : resolveUpward current (names ++ []) =
      resolveUpward (current ++ names) [] := resolveUpward_append noStep []
  rwa [List.append_nil] at resolved

theorem resolveUpward_concat (last : Text) :
    resolveUpward current (names ++ [last]) =
      if last = ".." then (resolveUpward current names).dropLast
      else resolveUpward current names ++ [last] := by
  induction names generalizing current with
  | nil => rfl
  | cons first names ih =>
      rw [List.cons_append, resolveUpward, resolveUpward]
      split
      · exact ih
      · exact ih

end Walks

section Leads

variable {tree other : FileTree} {path : PathName} {directory : List Text}
  {name : Text}

/-- The directory that a path is followed from. -/
def start (tree : FileTree) (path : PathName) : List Text :=
  if path.slashes = 0 then tree.workingDirectory else []

theorem node?_of_find {place : List Text} {node : Node}
    (found : tree.find path = .ok (.present place node)) :
    tree.node? place = some node := by
  unfold find at found
  split at found
  · cases found
  · exact node?_of_walk found

theorem names_absolute (tree : FileTree) (path : PathName) :
    (tree.absolute path).names =
      resolveUpward [] (tree.start path ++ path.names) := by
  rw [absolute, start]
  split <;> rfl

/-- A place that the beginning of a path spells. -/
def LiesOn (tree : FileTree) (path : PathName) (place : List Text) : Prop :=
  ∃ above rest, path.names = above ++ rest ∧
    place = (tree.absolute { path with names := above }).names

theorem absolute_congr {tree other : FileTree}
    (same : other.workingDirectory = tree.workingDirectory)
    (path : PathName) : other.absolute path = tree.absolute path := by
  rw [absolute, absolute, same]

theorem liesOn_congr {tree other : FileTree}
    (same : other.workingDirectory = tree.workingDirectory)
    (path : PathName) (place : List Text) :
    other.LiesOn path place ↔ tree.LiesOn path place := by
  simp only [LiesOn, absolute_congr same]

theorem liesOn_absolute (tree : FileTree) (path : PathName) :
    tree.LiesOn path (tree.absolute path).names :=
  ⟨path.names, [], (List.append_nil _).symm, rfl⟩

theorem LiesOn.of_append {tree : FileTree} {slashes : Nat}
    {above rest place : List Text}
    (lies : tree.LiesOn ⟨slashes, above⟩ place) :
    tree.LiesOn ⟨slashes, above ++ rest⟩ place := by
  obtain ⟨first, second, namesEq, placeEq⟩ := lies
  simp only at namesEq
  refine ⟨first, second ++ rest, ?_, placeEq⟩
  simp only [namesEq, List.append_assoc]

theorem KeepsDirectories.absolute_eq {tree other : FileTree}
    (kept : tree.KeepsDirectories other) (path : PathName) :
    other.absolute path = tree.absolute path :=
  absolute_congr kept.workingDirectory path

theorem not_mem_resolveUpward {names resolved : List Text}
    (noStep : (".." : Text) ∉ resolved) :
    (".." : Text) ∉ resolveUpward resolved names := by
  induction names generalizing resolved with
  | nil => exact noStep
  | cons name names ih =>
      unfold resolveUpward
      split
      · exact ih fun member => noStep (List.dropLast_subset _ member)
      · next different =>
          apply ih
          simp only [List.mem_append, List.mem_singleton, not_or]
          exact ⟨noStep, Ne.symm different⟩

theorem not_mem_absolute (tree : FileTree) (path : PathName) :
    (".." : Text) ∉ (tree.absolute path).names :=
  not_mem_resolveUpward List.not_mem_nil

theorem names_absolute_child (tree : FileTree) (path : PathName)
    {last : Text} (noStep : last ≠ "..") :
    (tree.absolute ((tree.absolute path).child last)).names =
      (tree.absolute path).names ++ [last] := by
  have fromRoot : tree.start ((tree.absolute path).child last) = [] := by
    rw [start, if_neg]
    simp [PathName.child, absolute]
  rw [names_absolute, fromRoot, List.nil_append, PathName.child,
    resolveUpward_concat, if_neg noStep,
    resolveUpward_of_not_mem (tree.not_mem_absolute path), List.nil_append]

theorem names_absolute_absolute (tree : FileTree) (path : PathName) :
    (tree.absolute (tree.absolute path)).names =
      (tree.absolute path).names := by
  have fromRoot : tree.start (tree.absolute path) = [] := by
    rw [start, if_neg]
    simp [absolute]
  rw [names_absolute, fromRoot, List.nil_append,
    resolveUpward_of_not_mem (tree.not_mem_absolute path), List.nil_append]

/-- A path leads to a name inside a directory. -/
structure Leads (tree : FileTree) (path : PathName) (directory : List Text)
    (name : Text) : Prop where
  short : ¬ pathLimit ≤ PathName.byteSize path.toText
  shortName : ¬ nameLimit < PathName.byteSize name
  noStep : name ≠ ".."
  walked : ∃ above, path.names = above ++ [name] ∧
    tree.walk (tree.start path) above =
      .ok (.present directory .directory)

theorem Leads.find (leads : tree.Leads path directory name) :
    tree.find path = .ok (tree.placeAt directory name) := by
  obtain ⟨above, namesEq, walked⟩ := leads.walked
  rw [FileTree.find, if_neg leads.short]
  change tree.walk (tree.start path) path.names = _
  rw [namesEq, walk_concat, walked]
  simp only [Except.bind, stepTo, if_neg leads.shortName, if_neg leads.noStep]

theorem Leads.node?_directory (leads : tree.Leads path directory name) :
    tree.node? directory = some .directory := by
  obtain ⟨above, -, walked⟩ := leads.walked
  exact node?_of_walk walked

theorem Leads.name_eq (leads : tree.Leads path directory name) :
    path.name = name := by
  obtain ⟨above, namesEq, -⟩ := leads.walked
  rw [PathName.name, namesEq, List.getLast?_concat, Option.getD_some]

/-- A path leads to the same name for as long as directories stay. -/
theorem Leads.of_keepsDirectories (leads : tree.Leads path directory name)
    (kept : tree.KeepsDirectories other) :
    other.Leads path directory name := by
  obtain ⟨above, namesEq, walked⟩ := leads.walked
  refine ⟨leads.short, leads.shortName, leads.noStep, above, namesEq, ?_⟩
  rw [start, kept.workingDirectory]
  exact walk_of_keepsDirectories kept walked

/-- A path leads to the same directory for as long as directories stay. -/
theorem KeepsDirectories.find (kept : tree.KeepsDirectories other)
    {place : List Text}
    (found : tree.find path = .ok (.present place .directory)) :
    other.find path = .ok (.present place .directory) := by
  unfold FileTree.find at found ⊢
  split at found
  · cases found
  · next short =>
      rw [if_neg short, kept.workingDirectory]
      exact walk_of_keepsDirectories kept found

theorem placeAt_of_some {node : Node}
    (here : tree.node? (directory ++ [name]) = some node) :
    tree.placeAt directory name = .present (directory ++ [name]) node := by
  rw [placeAt, here]

theorem path_placeAt (tree : FileTree) (directory : List Text)
    (name : Text) :
    (tree.placeAt directory name).path = directory ++ [name] := by
  unfold placeAt
  split <;> rfl

/-- A path leads to no file of an identity. -/
def Avoids (tree : FileTree) (path : PathName) (identity : Nat) : Prop :=
  ∀ place content,
    tree.find path ≠ .ok (.present place (.file identity content))

theorem Avoids.append {path : PathName} {identity : Nat}
    (avoids : tree.Avoids path identity) (owner : Nat)
    (bytes : List UInt8) : (tree.append owner bytes).Avoids path identity := by
  intro place content found
  rw [find_append] at found
  cases before : tree.find path with
  | error error =>
      rw [before] at found
      cases found
  | ok end_ =>
      rw [before] at found
      cases end_ with
      | free directory name => cases found
      | present path node =>
          cases node with
          | directory => cases found
          | file other bytes =>
              have same := Except.ok.inj found
              simp only [Place.append, Node.append] at same
              split at same <;> cases same <;> exact avoids _ _ before

end Leads

namespace WellFormed

variable {tree : FileTree} (wellFormed : tree.WellFormed)

include wellFormed

theorem node?_dropLast {path : List Text}
    (here : tree.node? path = some .directory) :
    tree.node? path.dropLast = some .directory := by
  rcases List.eq_nil_or_concat path with rfl | ⟨above, last, rfl⟩
  · exact here
  · rw [List.concat_eq_append] at here ⊢
    rw [List.dropLast_concat]
    exact wellFormed.inDirectory above last _ here

/-- Nothing stands below a file or below a free place. -/
theorem eq_of_isPrefix {path below : List Text} {node : Node}
    (noDirectory : tree.node? path ≠ some .directory)
    (here : tree.node? below = some node) (isBelow : path <+: below) :
    below = path := by
  obtain ⟨rest, rfl⟩ := isBelow
  induction rest using List.reverseRecOn generalizing node with
  | nil => rw [List.append_nil]
  | append_singleton rest last ih =>
      rw [← List.append_assoc] at here
      have above := wellFormed.inDirectory _ last node here
      have same := ih above
      rw [same] at above
      exact absurd above noDirectory

theorem node?_above {above rest : List Text} {node : Node}
    (here : tree.node? (above ++ rest) = some node) (below : rest ≠ []) :
    tree.node? above = some .directory := by
  by_contra noDirectory
  have same := wellFormed.eq_of_isPrefix noDirectory here
    (List.prefix_append above rest)
  exact below (List.append_right_eq_self.mp same)

/-- A walk without steps upward ends in the same place in every tree in which
something stands there. -/
theorem walk_of_node? {other : FileTree} {current names place : List Text}
    {node found : Node}
    (walked : other.walk current names = .ok (.present place found))
    (noStep : (".." : Text) ∉ names) (here : tree.node? place = some node) :
    tree.walk current names = .ok (.present place node) := by
  have placeEq : place = current ++ names := by
    rw [← resolveUpward_of_not_mem noStep]
    exact path_of_walk walked
  subst placeEq
  induction names generalizing current with
  | nil =>
      rw [List.append_nil] at here ⊢
      rw [walk, here]
  | cons first rest ih =>
      obtain ⟨noFirst, noRest⟩ : ".." ≠ first ∧ (".." : Text) ∉ rest := by
        simpa using noStep
      have above := wellFormed.node?_above here (by simp)
      rw [← List.singleton_append, ← List.append_assoc] at walked here ⊢
      obtain ⟨-, short, ⟨upward, -⟩ | ⟨-, ⟨down, -⟩ | ⟨-, -, free⟩⟩⟩ :=
        cases_of_walk_cons walked
      · exact absurd upward.symm noFirst
      · have next : tree.node? (current ++ [first]) ≠ none := by
          cases rest with
          | nil =>
              rw [List.append_nil] at here
              rw [here]
              simp
          | cons second rest =>
              rw [wellFormed.node?_above here (by simp)]
              simp
        rw [List.singleton_append, walk, above]
        simp only [if_neg short, if_neg (Ne.symm noFirst)]
        cases there : tree.node? (current ++ [first]) with
        | none => exact absurd there next
        | some node => exact ih noRest down here
      · cases free

theorem node?_start (path : PathName) :
    tree.node? (tree.start path) = some .directory := by
  unfold start
  split
  · exact wellFormed.workingDirectory
  · rfl

/-- A path without steps upward leads to what stands where it leads in a tree
that is seen from the same directory. -/
theorem find_of_node? {other : FileTree} {path : PathName}
    {place : List Text} {node found : Node}
    (sameDirectory : other.workingDirectory = tree.workingDirectory)
    (noStep : (".." : Text) ∉ path.names)
    (foundOther : other.find path = .ok (.present place found))
    (here : tree.node? place = some node) :
    tree.find path = .ok (.present place node) := by
  rw [find, sameDirectory] at foundOther
  unfold find
  split at foundOther
  · cases foundOther
  · next short =>
      rw [if_neg short]
      exact wellFormed.walk_of_node? foundOther noStep here

theorem exists_leads {path : PathName} {place : Place}
    (found : tree.find path = .ok place)
    (noDirectory : ∀ directory, place ≠ .present directory .directory) :
    ∃ directory name, tree.Leads path directory name ∧
      place = tree.placeAt directory name := by
  unfold find at found
  split at found
  · cases found
  · next short =>
      change tree.walk (tree.start path) path.names = .ok place at found
      -- A walk is cut before its last name, where the directory that leads to
      -- the place has been found.
      rcases List.eq_nil_or_concat path.names with
        namesEq | ⟨above, last, namesEq⟩
      · rw [namesEq, walk, wellFormed.node?_start path] at found
        cases found
        exact absurd rfl (noDirectory _)
      · rw [List.concat_eq_append] at namesEq
        rw [namesEq, walk_concat] at found
        cases walked : tree.walk (tree.start path) above with
        | error error =>
            rw [walked] at found
            cases found
        | ok middle =>
            rw [walked] at found
            simp only [Except.bind] at found
            cases middle with
            | free directory name => cases found
            | present directory node =>
                cases node with
                | file identity content => cases found
                | directory =>
                    rw [stepTo] at found
                    split at found
                    · cases found
                    · next shortName =>
                        split at found
                        · have here := wellFormed.node?_dropLast
                            (node?_of_walk walked)
                          rw [walk, here] at found
                          cases found
                          exact absurd rfl (noDirectory _)
                        · next noStep =>
                            cases found
                            exact ⟨directory, last,
                              ⟨short, shortName, noStep, above, namesEq,
                                walked⟩, rfl⟩

theorem exists_leads_of_file {path : PathName} {place : List Text}
    {identity : Nat} {content : List UInt8}
    (found : tree.find path =
      .ok (.present place (.file identity content))) :
    ∃ directory name, tree.Leads path directory name ∧
      place = directory ++ [name] ∧
      tree.node? place = some (.file identity content) := by
  obtain ⟨directory, name, leads, placeEq⟩ :=
    wellFormed.exists_leads found (by intro directory same; cases same)
  have pathEq := congrArg Place.path placeEq
  rw [path_placeAt] at pathEq
  refine ⟨directory, name, leads, pathEq, ?_⟩
  unfold placeAt at placeEq
  split at placeEq
  · next here =>
      cases placeEq
      exact here
  · cases placeEq

theorem exists_leads_of_free {path : PathName} {directory : List Text}
    {name : Text} (found : tree.find path = .ok (.free directory name)) :
    tree.Leads path directory name ∧
      tree.node? (directory ++ [name]) = none := by
  obtain ⟨other, last, leads, placeEq⟩ :=
    wellFormed.exists_leads found (by intro directory same; cases same)
  unfold placeAt at placeEq
  split at placeEq
  · cases placeEq
  · next absent =>
      cases placeEq
      exact ⟨leads, absent⟩

/-- The names of the working directory hold no step upward, so reading a path
from there or from the root is the same. -/
theorem resolveUpward_start (path : PathName) :
    resolveUpward (tree.start path) path.names =
      (tree.absolute path).names := by
  rw [absolute, start]
  split
  · have noStep := wellFormed.noStepUpward _ _ wellFormed.workingDirectory
    rw [resolveUpward_append noStep, List.nil_append]
  · rfl

/-- A path without steps upward is spelled behind the directory that it is
followed from. -/
theorem names_absolute_of_not_mem {path : PathName}
    (noStep : (".." : Text) ∉ path.names) :
    (tree.absolute path).names = tree.start path ++ path.names := by
  rw [← wellFormed.resolveUpward_start, resolveUpward_of_not_mem noStep]

theorem path_eq_absolute {path : PathName} {place : Place}
    (found : tree.find path = .ok place) :
    place.path = (tree.absolute path).names := by
  unfold find at found
  split at found
  · cases found
  · rw [path_of_walk found]
    exact wellFormed.resolveUpward_start path

/-- All places above the end of a path are directories. -/
theorem node?_of_liesOn {path : PathName} {directory place : List Text}
    {name : Text} (leads : tree.Leads path directory name)
    (lies : tree.LiesOn path.parent place) :
    tree.node? place = some .directory := by
  obtain ⟨front, namesEq, walked⟩ := leads.walked
  obtain ⟨above, rest, parts, rfl⟩ := lies
  rw [PathName.parent, namesEq, List.dropLast_concat] at parts
  subst parts
  obtain ⟨middle, reached⟩ := exists_directory_of_walk walked
  have spelled : middle = resolveUpward (tree.start path) above :=
    path_of_walk reached
  have placeEq : resolveUpward (tree.start path) above =
      (tree.absolute { path.parent with names := above }).names :=
    wellFormed.resolveUpward_start { path.parent with names := above }
  rw [← placeEq, ← spelled]
  exact node?_of_walk reached

end WellFormed

theorem wellFormed_of_root {tree : FileTree}
    (inRoot : tree.workingDirectory = [])
    (single : ∀ entry ∈ tree.nodes, ∃ name, entry.1 = [name] ∧ name ≠ "..")
    (fresh : ∀ entry ∈ tree.nodes, ∀ identity content,
      entry.2 = .file identity content → identity < tree.nextIdentity) :
    tree.WellFormed := by
  have member : ∀ {path node}, path ≠ [] → tree.node? path = some node →
      (path, node) ∈ tree.nodes := by
    intro path node notRoot here
    rw [node?_of_ne_nil tree path notRoot, List.lookup_eq_some_iff] at here
    obtain ⟨before, after, same, -⟩ := here
    rw [same]
    simp
  constructor
  · intro directory name node here
    obtain ⟨only, pathEq, -⟩ := single _ (member (by simp) here)
    have lengths := congrArg List.length pathEq
    simp only [List.length_append, List.length_singleton] at lengths
    have empty : directory = [] := List.eq_nil_of_length_eq_zero (by omega)
    rw [empty, node?_nil]
  · intro path node here
    by_cases isRoot : path = []
    · rw [isRoot]
      exact List.not_mem_nil
    · obtain ⟨only, pathEq, noStep⟩ := single _ (member isRoot here)
      simp only at pathEq
      rw [pathEq]
      simpa using Ne.symm noStep
  · intro path identity content here
    by_cases isRoot : path = []
    · rw [isRoot, node?_nil] at here
      cases here
    · exact fresh _ (member isRoot here) identity content rfl
  · rw [inRoot, node?_nil]

theorem wellFormed_pair {first second : Text} {content other : List UInt8}
    (firstNoStep : first ≠ "..") (secondNoStep : second ≠ "..") :
    WellFormed ⟨[([first], .file 0 content), ([second], .file 1 other)], [],
      2⟩ := by
  apply wellFormed_of_root rfl
  · intro entry member
    simp only [List.mem_cons, List.not_mem_nil, or_false] at member
    rcases member with rfl | rfl
    · exact ⟨first, rfl, firstNoStep⟩
    · exact ⟨second, rfl, secondNoStep⟩
  · intro entry member identity bytes same
    simp only [List.mem_cons, List.not_mem_nil, or_false] at member
    rcases member with rfl | rfl <;> cases same <;> simp

end FileTree

end VestingContract
