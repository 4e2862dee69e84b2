import VestingContract.File.Tree
import VestingContract.Proofs.Text.Keyed

/-!
# What stands at the paths of a tree

A change of a tree is told by what stands at every absolute path afterwards.
A path that leads to no directory ends in its last name inside a directory,
and it leads to the same name for as long as the directories stay.
-/

namespace VestingContract

/-- A node with bytes added, if it is the file of an identity. -/
def Node.append (identity : Nat) (bytes : List UInt8) : Node → Node
  | .directory => .directory
  | .file owner content =>
      if owner = identity then .file owner (content ++ bytes)
      else .file owner content

/-- A place with bytes added, if the file of an identity is there. -/
def Place.append (identity : Nat) (bytes : List UInt8) : Place → Place
  | .present path node => .present path (node.append identity bytes)
  | .free directory name => .free directory name

theorem Node.append_of_ne {identity owner : Nat} (other : owner ≠ identity)
    (content bytes : List UInt8) :
    (Node.file owner content).append identity bytes =
      .file owner content := by
  rw [append, if_neg other]

namespace FileTree

section Nodes

variable (tree : FileTree) (path other : List Text)

@[simp]
theorem node?_nil : tree.node? [] = some .directory := rfl

theorem node?_of_ne_nil (notRoot : path ≠ []) :
    tree.node? path = tree.nodes.lookup path := by
  rw [node?, if_neg (by simpa using notRoot)]

theorem lookup_cons_ite (node : Node) (nodes : List (List Text × Node)) :
    ((path, node) :: nodes).lookup other =
      if other = path then some node else nodes.lookup other :=
  lookup_cons_eq_if (path, node) nodes other

theorem lookup_replaced (nodes : List (List Text × Node)) (node : Node) :
    (nodes.map fun entry =>
        if entry.1 = path then (path, node) else entry).lookup other =
      if other = path then (nodes.lookup path).map fun _ => node
      else nodes.lookup other := by
  induction nodes with
  | nil => simp
  | cons entry nodes ih =>
      obtain ⟨key, found⟩ := entry
      rw [List.map_cons]
      by_cases isPath : key = path
      · subst isPath
        rw [if_pos rfl, lookup_cons_ite, lookup_cons_ite, lookup_cons_ite,
          ih, if_pos rfl, Option.map_some]
        split <;> rfl
      · rw [if_neg isPath, lookup_cons_ite, lookup_cons_ite,
          ih]
        by_cases isOther : other = path
        · subst isOther
          rw [if_neg (Ne.symm isPath), if_pos rfl, if_pos rfl,
            if_neg (Ne.symm isPath)]
        · rw [if_neg isOther, if_neg isOther, lookup_cons_ite]

theorem lookup_filtered (nodes : List (List Text × Node))
    (keeps : List Text → Bool) :
    (nodes.filter fun entry => keeps entry.1).lookup other =
      if keeps other then nodes.lookup other else none := by
  induction nodes with
  | nil => simp
  | cons entry nodes ih =>
      obtain ⟨key, found⟩ := entry
      rw [List.filter_cons, lookup_cons_ite]
      by_cases isKey : other = key
      · subst isKey
        by_cases kept : keeps other
        · rw [if_pos kept, lookup_cons_ite, if_pos rfl, if_pos kept,
            if_pos rfl]
        · rw [if_neg kept, ih, if_neg kept, if_neg kept]
      · rw [if_neg isKey]
        by_cases kept : keeps key
        · rw [if_pos kept, lookup_cons_ite, if_neg isKey, ih]
        · rw [if_neg kept, ih]

theorem lookup_mapped (nodes : List (List Text × Node))
    (change : Node → Node) :
    (nodes.map fun entry => (entry.1, change entry.2)).lookup other =
      (nodes.lookup other).map change := by
  induction nodes with
  | nil => rfl
  | cons entry nodes ih =>
      obtain ⟨key, found⟩ := entry
      rw [List.map_cons, lookup_cons_ite, lookup_cons_ite, ih]
      split <;> rfl

variable {path}

theorem node?_put (notRoot : path ≠ []) (node : Node) :
    (tree.put path node).node? other =
      if other = path then some node else tree.node? other := by
  by_cases isRoot : other = []
  · subst isRoot
    simp [Ne.symm notRoot]
  · rw [node?_of_ne_nil _ _ isRoot, node?_of_ne_nil _ _ isRoot, put]
    cases there : tree.nodes.lookup path with
    | some old =>
        simp only [Option.isSome_some, if_true, lookup_replaced, there,
          Option.map_some]
    | none =>
        simp only [Option.isSome_none, Bool.false_eq_true, if_false,
          List.lookup_append]
        rw [lookup_cons_ite, List.lookup_nil]
        by_cases isPath : other = path
        · subst isPath
          rw [there, if_pos rfl, Option.none_or]
        · rw [if_neg isPath, if_neg isPath, Option.or_none]

/-- Nothing is left at a path that is taken out, nor below it. -/
theorem node?_erase (notRoot : path ≠ []) :
    (tree.erase path).node? other =
      if path <+: other then none else tree.node? other := by
  by_cases isRoot : other = []
  · subst isRoot
    have above : ¬ path <+: [] := by simpa using notRoot
    simp [above]
  · rw [node?_of_ne_nil _ _ isRoot, node?_of_ne_nil _ _ isRoot, erase,
      lookup_filtered other tree.nodes fun key => !path.isPrefixOf key]
    by_cases below : path <+: other
    · simp [below, List.isPrefixOf_iff_prefix.mpr below]
    · have outside : path.isPrefixOf other = false := by
        simpa [← List.isPrefixOf_iff_prefix] using below
      simp [below, outside]

theorem node?_append (identity : Nat) (bytes : List UInt8) :
    (tree.append identity bytes).node? other =
      (tree.node? other).map (·.append identity bytes) := by
  by_cases isRoot : other = []
  · subst isRoot
    simp [Node.append]
  · have entries : (tree.append identity bytes).nodes =
        tree.nodes.map fun entry =>
          (entry.1, entry.2.append identity bytes) := by
      rw [append]
      refine List.map_congr_left fun entry _ => ?_
      obtain ⟨key, node⟩ := entry
      cases node with
      | directory => rfl
      | file owner content =>
          by_cases owns : owner = identity <;> simp [Node.append, owns]
    rw [node?_of_ne_nil _ _ isRoot, node?_of_ne_nil _ _ isRoot, entries,
      lookup_mapped]

/-- Bytes that are added to one file leave the others as they are. -/
theorem node?_append_file_iff {identity owner : Nat}
    (other : owner ≠ identity) (bytes content : List UInt8) :
    (tree.append identity bytes).node? path = some (.file owner content) ↔
      tree.node? path = some (.file owner content) := by
  rw [node?_append]
  cases tree.node? path with
  | none => simp
  | some node =>
      cases node with
      | directory => simp [Node.append]
      | file oldOwner oldContent =>
          by_cases owns : oldOwner = identity
          · simp [Node.append, owns, Ne.symm other]
          · rw [Option.map_some, Node.append_of_ne owns]

end Nodes

section Walks

variable (tree : FileTree)

/-- What a name leads to inside a directory. -/
def placeAt (directory : List Text) (name : Text) : Place :=
  match tree.node? (directory ++ [name]) with
  | some node => .present (directory ++ [name]) node
  | none => .free directory name

/-- The last name of a path, looked for behind a place. -/
def stepTo (name : Text) : Place → Except SystemError Place
  | .free .. => .error .noEntry
  | .present _ (.file ..) => .error .notDirectory
  | .present directory .directory =>
      if nameLimit < PathName.byteSize name then .error .nameTooLong
      else if name = ".." then tree.walk directory.dropLast []
      else .ok (tree.placeAt directory name)

theorem walk_concat (current : List Text) (names : List Text) (name : Text) :
    tree.walk current (names ++ [name]) =
      (tree.walk current names).bind (tree.stepTo name) := by
  induction names generalizing current with
  | nil =>
      rw [List.nil_append, walk, walk]
      cases here : tree.node? current with
      | none => rfl
      | some node =>
          cases node with
          | file => rfl
          | directory =>
              simp only [Except.bind, stepTo, placeAt]
              split
              · rfl
              · split
                · rfl
                · cases found : tree.node? (current ++ [name]) with
                  | some node => simp only [walk, found]
                  | none => rfl
  | cons first rest ih =>
      rw [List.cons_append, walk, walk]
      cases here : tree.node? current with
      | none => rfl
      | some node =>
          cases node with
          | file => rfl
          | directory =>
              simp only
              split
              · rfl
              · split
                · exact ih _
                · cases found : tree.node? (current ++ [first]) with
                  | some node => exact ih _
                  | none =>
                      cases rest with
                      | nil => rfl
                      | cons second rest => rfl

theorem walk_append (identity : Nat) (bytes : List UInt8)
    (current names : List Text) :
    (tree.append identity bytes).walk current names =
      (tree.walk current names).map (·.append identity bytes) := by
  induction names generalizing current with
  | nil =>
      rw [walk, walk, node?_append]
      cases tree.node? current <;> rfl
  | cons name rest ih =>
      rw [walk, walk, node?_append]
      cases here : tree.node? current with
      | none => rfl
      | some node =>
          cases node with
          | file owner content =>
              by_cases owns : owner = identity
              · simp only [Option.map_some, Node.append, if_pos owns]
                rfl
              · simp only [Option.map_some, Node.append, if_neg owns]
                rfl
          | directory =>
              simp only [Option.map_some, Node.append]
              split
              · rfl
              · split
                · exact ih _
                · rw [node?_append]
                  cases tree.node? (current ++ [name]) with
                  | some node => exact ih _
                  | none => cases rest <;> rfl

theorem find_append (identity : Nat) (bytes : List UInt8) (path : PathName) :
    (tree.append identity bytes).find path =
      (tree.find path).map (·.append identity bytes) := by
  rw [find, find]
  split
  · rfl
  · exact walk_append tree identity bytes _ path.names

end Walks

end FileTree

end VestingContract
