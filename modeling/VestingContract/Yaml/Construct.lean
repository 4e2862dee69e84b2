import VestingContract.Value.Key
import VestingContract.Yaml.Document
import VestingContract.Yaml.Scalar

/-!
# Values of YAML documents

The value that a tree of nodes stands for.  The nodes are visited level by
level, and the first fault on this way is the fault of the document.  A
container in the place of a key is refused before it is filled.
-/

namespace VestingContract
namespace Yaml

namespace Node

/-- The kind of a node. -/
def tag : Node → Tag
  | scalar tag _ | sequence tag _ | mapping tag _ | loop tag => tag

def withTag (tag : Tag) : Node → Node
  | scalar _ content => scalar tag content
  | sequence _ items => sequence tag items
  | mapping _ pairs => mapping tag pairs
  | loop _ => loop tag

mutual

/-- The greatest number of nodes inside each other. -/
def depth : Node → Nat
  | scalar .. | loop _ => 1
  | sequence _ items => depthOfItems items + 1
  | mapping _ pairs => depthOfPairs pairs + 1

def depthOfItems : List Node → Nat
  | [] => 0
  | item :: items => max item.depth (depthOfItems items)

/-- The greatest depth of keys and values. -/
def depthOfPairs : List (Node × Node) → Nat
  | [] => 0
  | (key, value) :: pairs =>
      max (max key.depth value.depth) (depthOfPairs pairs)

end

mutual

/-- The pairs that a mapping takes over from others, and its own. -/
def splitMerges (room : Nat) :
    List (Node × Node) →
      Except Fault (List (Node × Node) × List (Node × Node))
  | [] => .ok ([], [])
  | (key, value) :: pairs => do
      match key.tag with
      | .merge =>
          let found ← mergedPairs room value
          let (taken, own) ← splitMerges room pairs
          return (found ++ taken, own)
      | .value =>
          let (taken, own) ← splitMerges room pairs
          return (taken, (key.withTag .str, value) :: own)
      | _ =>
          let (taken, own) ← splitMerges room pairs
          return (taken, (key, value) :: own)

/-- The pairs that are taken over from a mapping or from several; of several
the last one comes first. -/
def mergedPairs : Nat → Node → Except Fault (List (Node × Node))
  | 0, mapping .. => .error .tooDeep
  | room + 1, mapping _ pairs => do
      let (taken, own) ← splitMerges room pairs
      return taken ++ own
  | room, sequence _ items => do
      return (← mergedLists room items).reverse.flatten
  | _, _ => .error .malformed

/-- The pairs of each of several mappings. -/
def mergedLists : Nat → List Node → Except Fault (List (List (Node × Node)))
  | _, [] => .ok []
  | 0, mapping .. :: _ => .error .tooDeep
  | room + 1, mapping _ pairs :: items => do
      let (taken, own) ← splitMerges room pairs
      return (taken ++ own) :: (← mergedLists (room + 1) items)
  | _, _ :: _ => .error .malformed

end

/-- The pairs of a mapping, those that it takes over in front. -/
def effectivePairs (room : Nat) (pairs : List (Node × Node)) :
    Except Fault (List (Node × Node)) := do
  let (taken, own) ← splitMerges room pairs
  return taken ++ own

mutual

/-- The content of a node that is wanted as a scalar.  A mapping stands for
the value under its equals sign. -/
def content : Nat → Node → Except Fault Text
  | _, scalar _ content => .ok content
  | 0, mapping .. => .error .tooDeep
  | room + 1, mapping _ pairs => contentOfPairs room pairs
  | _, _ => .error .malformed

/-- The content of the value under an equals sign. -/
def contentOfPairs (room : Nat) : List (Node × Node) → Except Fault Text
  | [] => .error .malformed
  | (key, value) :: pairs =>
      if key.tag = .value then value.content room
      else contentOfPairs room pairs

end

end Node

/-- A value with the faults that were met on the way to it, each with its
level. -/
structure Built (α : Type) where
  value : α
  faults : List (Nat × Fault)

namespace Built

/-- A value without a fault. -/
def ok {α : Type} (value : α) : Built α := ⟨value, []⟩

/-- A fault at a level, with a value that stands in. -/
def fail {α : Type} (standIn : α) (level : Nat) (fault : Fault) : Built α :=
  ⟨standIn, [(level, fault)]⟩

/-- Two values, the faults of the first one first. -/
def both {α β γ : Type} (join : α → β → γ) (left : Built α)
    (right : Built β) : Built γ :=
  ⟨join left.value right.value, left.faults ++ right.faults⟩

/-- The value, or the first fault of the least level. -/
def result {α : Type} (built : Built α) : Except Fault α :=
  match built.faults with
  | [] => .ok built.value
  | first :: rest =>
      .error (rest.foldl (fun least fault =>
        if fault.1 < least.1 then fault else least) first).2

end Built

def buildScalar (level : Nat) (tag : Tag) (content : Text) : Built Value :=
  match scalarValue tag content with
  | .ok value => .ok value
  | .error fault => .fail .null level fault

/-- The kinds that sequences, sets and mappings have. -/
def Tag.isCollection (tag : Tag) : Bool :=
  [Tag.seq, .map, .set, .omap, .pairs].contains tag

/-- The container that a node of a kind becomes. -/
def Tag.container : Tag → ContainerKind
  | map => .map
  | set => .set
  | _ => .list

/-- The value of a key.  It is refused if it cannot be a key. -/
def Built.asKey (level : Nat) (key : Built Value) : Built Value :=
  if key.faults.isEmpty && key.value.keyFault?.isSome then
    .fail .null level .malformed
  else
    key

/-- A node as a value.  The number bounds the depth of the node. -/
def build (interpreter : Interpreter) : Nat → Nat → Node → Built Value
  | 0, level, _ => .fail .null level .tooDeep
  | _ + 1, _, .loop tag => .ok (.cycle tag.container)
  | _ + 1, level, .scalar tag content =>
      if tag.isCollection then
        .fail .null (level + 1) .malformed
      else
        buildScalar level tag content
  | bound + 1, level, .sequence tag items =>
      let child (node : Node) : Built Value :=
        build interpreter bound (level + 1) node
      if tag = .seq then
        let built := items.map child
        ⟨.list (built.map Built.value), built.flatMap Built.faults⟩
      else if tag = .omap ∨ tag = .pairs then
        let built := items.map fun item =>
          match item with
          | .mapping _ [(key, value)] =>
              Built.both (fun key value => Value.tuple [key, value])
                (child key) (child value)
          | _ => .fail .null (level + 1) .malformed
        ⟨.list (built.map Built.value), built.flatMap Built.faults⟩
      else if tag.isCollection then
        .fail .null (level + 1) .malformed
      else
        .fail .null level .malformed
  | bound + 1, level, .mapping tag pairs =>
      let child (node : Node) : Built Value :=
        build interpreter bound (level + 1) node
      if tag = .map ∨ tag = .set then
        match Node.effectivePairs interpreter.merges pairs with
        | .error fault => .fail .null (level + 1) fault
        | .ok pairs =>
            let built := pairs.map fun pair =>
              let key :=
                if pair.1.tag.isCollection then
                  .fail .null (level + 1) .malformed
                else
                  (child pair.1).asKey (level + 1)
              Built.both Prod.mk key (child pair.2)
            let value :=
              match Value.mapOfPairs (built.map Built.value) with
              | .map pairs =>
                  if tag = .set then
                    Value.set (interpreter.arrange (pairs.map Prod.fst))
                  else
                    .map pairs
              | other => other
            ⟨value, built.flatMap Built.faults⟩
      else if tag.isCollection then
        .fail .null (level + 1) .malformed
      else
        match (Node.mapping tag pairs).content interpreter.merges with
        | .ok content => buildScalar level tag content
        | .error fault => .fail .null level fault

/-- The value of the document in a stream; no document is null. -/
def valueOf (interpreter : Interpreter) (stream : Stream) :
    Except Fault Value := do
  match ← rootOf interpreter stream with
  | none => return .null
  | some root => (build interpreter (root.depth + 1) 0 root).result

/-- The value of the document in the bytes of a file. -/
def load (interpreter : Interpreter) (bytes : List UInt8) :
    Except Fault Value :=
  valueOf interpreter (.ofBytes interpreter.decoded bytes)

end Yaml
end VestingContract
