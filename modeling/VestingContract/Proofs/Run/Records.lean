import VestingContract.Proofs.File.Tree
import VestingContract.Proofs.Run.Stateful

/-!
# What records change

A record adds its line to the files of the handlers and changes no other
file, no directory and no state of logging.  Without a handler that writes to
a file the tree stays as it is.
-/

namespace VestingContract

namespace FileTree

/-- A tree with bytes added to files, one addition after the other. -/
def appendAll (tree : FileTree) (additions : List (Nat × List UInt8)) :
    FileTree :=
  additions.foldl (fun tree addition =>
    tree.append addition.1 addition.2) tree

variable {tree : FileTree} {additions : List (Nat × List UInt8)}

theorem appendAll_append (tree : FileTree)
    (first second : List (Nat × List UInt8)) :
    tree.appendAll (first ++ second) =
      (tree.appendAll first).appendAll second := by
  rw [appendAll, List.foldl_append]
  rfl

theorem node?_appendAll_file_iff {identity : Nat}
    (apart : ∀ addition ∈ additions, addition.1 ≠ identity)
    {path : List Text} {content : List UInt8} :
    (tree.appendAll additions).node? path = some (.file identity content) ↔
      tree.node? path = some (.file identity content) := by
  induction additions generalizing tree with
  | nil => exact Iff.rfl
  | cons addition additions ih =>
      obtain ⟨first, others⟩ := List.forall_mem_cons.mp apart
      exact (ih others).trans
        (tree.node?_append_file_iff (Ne.symm first) addition.2 content)

/-- The bytes that additions put behind the content of a file. -/
def addedTo (identity : Nat) (additions : List (Nat × List UInt8)) :
    List UInt8 :=
  (additions.filter fun addition => addition.1 == identity).flatMap Prod.snd

theorem addedTo_cons (identity : Nat) (addition : Nat × List UInt8)
    (additions : List (Nat × List UInt8)) :
    addedTo identity (addition :: additions) =
      if addition.1 = identity then
        addition.2 ++ addedTo identity additions
      else addedTo identity additions := by
  by_cases isFile : addition.1 = identity <;>
    simp [addedTo, isFile]

theorem addedTo_eq_nil {identity : Nat}
    (apart : ∀ addition ∈ additions, addition.1 ≠ identity) :
    addedTo identity additions = [] := by
  have none : additions.filter (fun addition => addition.1 == identity) =
      [] := by
    apply List.filter_eq_nil_iff.mpr
    intro addition member
    simpa using apart addition member
  rw [addedTo, none, List.flatMap_nil]

theorem addedTo_ne_nil {identity : Nat} {bytes : List UInt8}
    (member : (identity, bytes) ∈ additions) (nonempty : bytes ≠ []) :
    addedTo identity additions ≠ [] := by
  intro isNil
  rw [addedTo, List.flatMap_eq_nil_iff] at isNil
  apply nonempty
  exact isNil (identity, bytes) (List.mem_filter.mpr ⟨member, by simp⟩)

theorem find_appendAll {path : PathName} {place : List Text} {identity : Nat}
    {content : List UInt8}
    (found : tree.find path =
      .ok (.present place (.file identity content))) :
    (tree.appendAll additions).find path =
      .ok (.present place
        (.file identity (content ++ addedTo identity additions))) := by
  induction additions generalizing tree content with
  | nil =>
      rw [addedTo, List.filter_nil, List.flatMap_nil, List.append_nil]
      exact found
  | cons addition additions ih =>
      rw [addedTo_cons]
      have next := tree.find_append addition.1 addition.2 path
      rw [found] at next
      by_cases isFile : addition.1 = identity
      · rw [if_pos isFile, ← List.append_assoc]
        apply ih
        rw [next, isFile]
        simp [Except.map, Place.append, Node.append]
      · rw [if_neg isFile]
        apply ih
        rw [next]
        exact congrArg (fun node => Except.ok (Place.present place node))
          (Node.append_of_ne (Ne.symm isFile) content addition.2)

end FileTree

/-- One of the handlers writes to the file of an identity. -/
def LogState.WritesTo (state : LogState) (identity : Nat) : Prop :=
  ∃ style, Handler.file identity style ∈ state.handlers

/-- No handler writes to a file. -/
def LogState.WritesNoFile (state : LogState) : Prop :=
  ∀ identity, ¬ state.WritesTo identity

namespace World

/-- Between two worlds nothing but records was written. -/
structure OnlyRecords (world after : World) : Prop where
  files : ∃ additions, after.files = world.files.appendAll additions ∧
    ∀ addition ∈ additions, world.logging.WritesTo addition.1
  logging : after.logging = world.logging
  output : after.output = world.output
  terminal : after.terminal = world.terminal
  shipped : after.shipped = world.shipped
  platform : after.platform = world.platform

theorem OnlyRecords.refl (world : World) : OnlyRecords world world :=
  ⟨⟨[], rfl, by simp⟩, rfl, rfl, rfl, rfl, rfl⟩

theorem OnlyRecords.trans ⦃first second third : World⦄
    (before : OnlyRecords first second) (after : OnlyRecords second third) :
    OnlyRecords first third := by
  obtain ⟨additions, additionsEq, writes⟩ := before.files
  obtain ⟨others, othersEq, othersWrite⟩ := after.files
  refine ⟨⟨additions ++ others, ?_, ?_⟩, after.logging.trans before.logging,
    after.output.trans before.output, after.terminal.trans before.terminal,
    after.shipped.trans before.shipped,
    after.platform.trans before.platform⟩
  · rw [othersEq, additionsEq, FileTree.appendAll_append]
  · rw [before.logging] at othersWrite
    exact List.forall_mem_append.mpr ⟨writes, othersWrite⟩

/-- A file stays where its path leads and may get longer if a handler writes
to it. -/
theorem OnlyRecords.find {world after : World}
    (only : OnlyRecords world after) {path : PathName} {place : List Text}
    {identity : Nat} {content : List UInt8}
    (found : world.files.find path =
      .ok (.present place (.file identity content))) :
    ∃ added, after.files.find path =
        .ok (.present place (.file identity (content ++ added))) ∧
      (¬ world.logging.WritesTo identity → added = []) := by
  obtain ⟨additions, additionsEq, writes⟩ := only.files
  refine ⟨_, additionsEq ▸ FileTree.find_appendAll found, fun apart => ?_⟩
  apply FileTree.addedTo_eq_nil
  intro addition member same
  exact apart (same ▸ writes addition member)

/-- A file that no handler writes to stays as it is. -/
theorem OnlyRecords.node?_file_iff {world after : World}
    (only : OnlyRecords world after) {identity : Nat}
    (apart : ¬ world.logging.WritesTo identity) {path : List Text}
    {content : List UInt8} :
    after.files.node? path = some (.file identity content) ↔
      world.files.node? path = some (.file identity content) := by
  obtain ⟨additions, additionsEq, writes⟩ := only.files
  rw [additionsEq]
  apply FileTree.node?_appendAll_file_iff
  intro addition member same
  exact apart (same ▸ writes addition member)

/-- Without handlers that write to files the tree is the same. -/
theorem OnlyRecords.files_eq {world after : World}
    (only : OnlyRecords world after)
    (quiet : world.logging.WritesNoFile) : after.files = world.files := by
  obtain ⟨additions, additionsEq, writes⟩ := only.files
  cases additions with
  | nil => exact additionsEq
  | cons addition additions =>
      exact absurd (writes addition (by simp)) (quiet addition.1)

theorem onlyRecords_report (world : World) (text : Text) :
    OnlyRecords world (world.report text) :=
  ⟨⟨[], rfl, by simp⟩, rfl, rfl, rfl, rfl, rfl⟩

theorem onlyRecords_deliver (record : Record) (world : World)
    {handler : Handler} (attached : handler ∈ world.logging.handlers) :
    OnlyRecords world (world.deliver record handler) := by
  cases handler with
  | console colored =>
      rw [deliver]
      split
      · exact onlyRecords_report world _
      · exact .refl world
  | file identity style =>
      rw [deliver]
      split
      · split
        · next bytes _ =>
            refine ⟨⟨[(identity, bytes)], rfl, ?_⟩, rfl, rfl, rfl, rfl, rfl⟩
            intro addition member
            obtain rfl := List.mem_singleton.mp member
            exact ⟨style, attached⟩
        · exact .refl world
      · exact .refl world
  | foreign _ => exact .refl world

theorem onlyRecords_deliverAll (record : Record) (world : World)
    (handlers : List Handler)
    (attached : ∀ handler ∈ handlers, handler ∈ world.logging.handlers) :
    OnlyRecords world (handlers.foldl (deliver record) world) := by
  induction handlers generalizing world with
  | nil => exact .refl world
  | cons handler handlers ih =>
      obtain ⟨first, others⟩ := List.forall_mem_cons.mp attached
      have delivered := onlyRecords_deliver record world first
      refine delivered.trans (ih _ ?_)
      rw [delivered.logging]
      exact others

/-- A line that is delivered to the handlers is added to their file. -/
theorem deliverAll_adds {record : Record} {world : World}
    {handlers : List Handler} {identity : Nat} {style : LineStyle}
    {line : Text} {bytes : List UInt8}
    (attached : ∀ handler ∈ handlers, handler ∈ world.logging.handlers)
    (member : .file identity style ∈ handlers)
    (spelled : record.line style world.logging.context = .ok line)
    (encoded : Utf8.encode (line ++ "\n") = .ok bytes) :
    ∃ additions,
      (handlers.foldl (deliver record) world).files =
        world.files.appendAll additions ∧
      (identity, bytes) ∈ additions := by
  induction handlers generalizing world with
  | nil => cases member
  | cons handler handlers ih =>
      obtain ⟨first, others⟩ := List.forall_mem_cons.mp attached
      have delivered := onlyRecords_deliver record world first
      rw [← delivered.logging] at others
      rcases List.mem_cons.mp member with isFirst | isLater
      · subst isFirst
        have here : (world.deliver record (.file identity style)).files =
            world.files.append identity bytes := by
          rw [deliver, spelled]
          simp only [encoded]
        obtain ⟨additions, additionsEq, -⟩ :=
          (onlyRecords_deliverAll record _ handlers others).files
        refine ⟨(identity, bytes) :: additions, ?_, List.mem_cons_self⟩
        rw [List.foldl_cons, additionsEq, here]
        rfl
      · rw [← delivered.logging] at spelled
        obtain ⟨before, beforeEq, -⟩ := delivered.files
        obtain ⟨additions, additionsEq, isAdded⟩ := ih others isLater spelled
        refine ⟨before ++ additions, ?_, List.mem_append_right _ isAdded⟩
        rw [List.foldl_cons, additionsEq, beforeEq, FileTree.appendAll_append]

/-- A record is delivered to the handlers and to nothing else. -/
theorem onlyRecords_emit (world : World) (level : Int) (record : Record) :
    OnlyRecords world (world.emit level record) := by
  unfold emit
  split
  · exact .refl world
  · split
    · split
      · exact onlyRecords_report world _
      · exact .refl world
    · exact onlyRecords_deliverAll record world _ fun _ member => member

end World

namespace Action

open Stateful

theorem run_log (level : Int) (logger message : Text)
    (arguments : List Value) (world : World) :
    (log level logger message arguments).run world =
      (.ok ⟨⟩, world.log level logger message arguments) := rfl

theorem onlyRecords_log (level : Int) (logger message : Text)
    (arguments : List Value) :
    Relates World.OnlyRecords (log level logger message arguments) :=
  fun world => world.onlyRecords_emit level _

theorem onlyRecords_onFiles {α : Type} {work : FileAction α}
    (same : ∀ tree, (work.run tree).2 = tree) :
    Relates World.OnlyRecords (onFiles work) := by
  refine .of_eq World.OnlyRecords.refl fun world => ?_
  rw [run_onFiles, same]

theorem onlyRecords_throw {α : Type} (failure : Failure) :
    Relates World.OnlyRecords (throw failure : Action α) :=
  .of_eq World.OnlyRecords.refl fun _ => rfl

theorem onlyRecords_pure {α : Type} (value : α) :
    Relates World.OnlyRecords (pure value : Action α) :=
  .of_eq World.OnlyRecords.refl fun _ => rfl

end Action

end VestingContract
