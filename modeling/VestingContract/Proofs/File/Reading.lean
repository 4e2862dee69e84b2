import VestingContract.Proofs.File.Tree
import VestingContract.Proofs.Run.Stateful

/-!
# Looking at files

Work that only looks at files leaves the tree as it is, and finds what stands
where a path leads.
-/

namespace VestingContract.FileAction

open Stateful

/-- The result of an operation that only looks at a tree. -/
def lookedUp {α : Type} (path : PathName)
    (found : Except SystemError α) : Except FileFailure α :=
  match PathName.check path.toText with
  | .error fault => .error (.path fault)
  | .ok _ => found.mapError fun error => .file (.system error path.toText)

theorem run_ofRead {α : Type} (path : PathName)
    (operation : FileTree → Except SystemError α) (tree : FileTree) :
    (ofRead path operation).run tree =
      (lookedUp path (operation tree), tree) := by
  cases checked : PathName.check path.toText with
  | error fault => simp only [ofRead, lookedUp, checked]; rfl
  | ok valid =>
      cases found : operation tree with
      | error error =>
          simp only [ofRead, lookedUp, checked]
          rw [run_bind_of_ok (run_get tree), found]
          rfl
      | ok value =>
          simp only [ofRead, lookedUp, checked]
          rw [run_bind_of_ok (run_get tree), found]
          rfl

/-- What is seen at a path; a path that the system cannot take leads to
nothing. -/
def seen (path : PathName) (tree : FileTree) :
    Except FileFailure (Option Node) :=
  match PathName.check path.toText with
  | .error _ => .ok none
  | .ok _ =>
      match tree.find path with
      | .ok (.present _ node) => .ok (some node)
      | .ok (.free ..) => .ok none
      | .error .noEntry | .error .notDirectory => .ok none
      | .error error => .error (.file (.system error path.toText))

theorem run_node? (path : PathName) (tree : FileTree) :
    (node? path).run tree = (seen path tree, tree) := by
  cases checked : PathName.check path.toText with
  | error fault => simp only [node?, seen, checked]; rfl
  | ok valid =>
      simp only [node?, seen, checked]
      rw [run_bind_of_ok (run_get tree)]
      cases found : tree.find path with
      | error error => cases error <;> rfl
      | ok place => cases place <;> rfl

theorem run_pathExists (path : PathName) (tree : FileTree) :
    (pathExists path).run tree =
      ((seen path tree).map Option.isSome, tree) := by
  have looked := run_node? path tree
  cases found : seen path tree with
  | ok node =>
      rw [found] at looked
      rw [pathExists, run_bind_of_ok looked]
      rfl
  | error failure =>
      rw [found] at looked
      rw [pathExists, run_bind_of_error looked]
      rfl

theorem run_isFile_tree (path : PathName) (tree : FileTree) :
    ((isFile path).run tree).2 = tree := by
  have looked := run_node? path tree
  cases found : seen path tree with
  | ok node =>
      rw [found] at looked
      rw [isFile, run_bind_of_ok looked]
      split <;> rfl
  | error failure =>
      rw [found] at looked
      rw [isFile, run_bind_of_error looked]

theorem run_read (path : PathName) (tree : FileTree) :
    (read path).run tree = (lookedUp path (tree.read path), tree) :=
  run_ofRead path _ tree

section Found

variable {path : PathName} {tree : FileTree} {place : List Text}
  {identity : Nat} {content : List UInt8}
  (valid : PathName.check path.toText = .ok ())
  (found : tree.find path = .ok (.present place (.file identity content)))

include valid found

theorem run_pathExists_of_find :
    (pathExists path).run tree = (.ok true, tree) := by
  rw [run_pathExists, seen, valid, found]
  rfl

theorem run_isFile_of_find : (isFile path).run tree = (.ok true, tree) := by
  have sees : seen path tree = .ok (some (.file identity content)) := by
    rw [seen, valid, found]
  have looked := run_node? path tree
  rw [sees] at looked
  rw [isFile, run_bind_of_ok looked]
  rfl

theorem run_read_of_find :
    (read path).run tree = (.ok content, tree) := by
  rw [run_read, lookedUp, valid, FileTree.read, found]
  rfl

end Found

section Cases

variable (path : PathName) (tree : FileTree)

/-- The system reports an error, or nothing is seen, or the node that the path
leads to. -/
theorem seen_cases :
    (∃ fault, seen path tree = .error (.file fault)) ∨
    seen path tree = .ok none ∨
    ∃ place node, PathName.check path.toText = .ok () ∧
      tree.find path = .ok (.present place node) ∧
      seen path tree = .ok (some node) := by
  unfold seen
  cases checked : PathName.check path.toText with
  | error fault => exact .inr (.inl rfl)
  | ok valid =>
      cases found : tree.find path with
      | error error => cases error <;> simp
      | ok place => cases place <;> simp

theorem pathExists_cases :
    (∃ fault, (pathExists path).run tree = (.error (.file fault), tree)) ∨
    (pathExists path).run tree = (.ok false, tree) ∨
    PathName.check path.toText = .ok () ∧
      (pathExists path).run tree = (.ok true, tree) := by
  rw [run_pathExists]
  rcases seen_cases path tree with
    ⟨fault, seenEq⟩ | seenEq | ⟨_, _, valid, _, seenEq⟩
  · exact .inl ⟨fault, by rw [seenEq]; rfl⟩
  · exact .inr (.inl (by rw [seenEq]; rfl))
  · exact .inr (.inr ⟨valid, by rw [seenEq]; rfl⟩)

theorem isFile_cases :
    (∃ fault, (isFile path).run tree = (.error (.file fault), tree)) ∨
    (isFile path).run tree = (.ok false, tree) ∨
    PathName.check path.toText = .ok () ∧
      (isFile path).run tree = (.ok true, tree) := by
  have looked := run_node? path tree
  rcases seen_cases path tree with
    ⟨fault, seenEq⟩ | seenEq | ⟨_, node, valid, _, seenEq⟩
  all_goals rw [seenEq] at looked
  · exact .inl ⟨fault, by rw [isFile, run_bind_of_error looked]⟩
  · exact .inr (.inl (by rw [isFile, run_bind_of_ok looked]; rfl))
  · rw [isFile, run_bind_of_ok looked]
    cases node with
    | directory => exact .inr (.inl rfl)
    | file identity content => exact .inr (.inr ⟨valid, rfl⟩)

variable {path}

/-- A path that the system takes is not read because of an error that the
system reports, or it leads to a file. -/
theorem read_cases (valid : PathName.check path.toText = .ok ()) :
    (∃ fault, (read path).run tree = (.error (.file fault), tree)) ∨
    ∃ place identity content,
      tree.find path = .ok (.present place (.file identity content)) ∧
      (read path).run tree = (.ok content, tree) := by
  rw [run_read, lookedUp, valid, FileTree.read]
  cases found : tree.find path with
  | error error => exact .inl ⟨_, rfl⟩
  | ok place =>
      cases place with
      | free directory name => exact .inl ⟨_, rfl⟩
      | present place node =>
          cases node with
          | directory => exact .inl ⟨_, rfl⟩
          | file identity content =>
              exact .inr ⟨place, identity, content, rfl, rfl⟩

end Cases

end VestingContract.FileAction
