import VestingContract.Yaml.Tag
import VestingContract.Yaml.Tokens

/-!
# Nodes of YAML documents

The tree of a document: scalars, sequences and mappings with their kinds.  An
alias stands for a copy of the node that it names; inside that node itself it
is a loop, of which only the kind is kept.
-/

namespace VestingContract
namespace Yaml

/-- A part of a document. -/
inductive Node where
  | scalar (tag : Tag) (content : Text)
  | sequence (tag : Tag) (items : List Node)
  | mapping (tag : Tag) (pairs : List (Node × Node))
  | loop (tag : Tag)
  deriving Repr, Inhabited

/-- The empty scalar. -/
def Node.empty : Node := .scalar .null []

/-- The tokens that have not been read yet with the fault behind them, the
nodes that have names so far, the handles of tags, and the number of nodes
that may enclose a node.  A node that is still being read has its name already
and is a loop to what it holds. -/
structure Composer where
  tokens : List Token
  fault : Option Fault
  anchors : List (Text × Node)
  handles : List (Text × Text)
  room : Nat

/-- Reading of tokens. -/
abbrev Composing (α : Type) := StateT Composer (Except Fault) α

namespace Composing

def peek : Composing Token := do
  let composer ← get
  match composer.tokens with
  | token :: _ => return token
  | [] => throw (composer.fault.getD .malformed)

/-- Leave the next token behind. -/
def drop : Composing Unit :=
  modify fun composer => { composer with tokens := composer.tokens.drop 1 }

/-- Leave the next token behind, if it is the given one. -/
def accept (token : Token) : Composing Bool := do
  if (← peek) = token then
    drop
    return true
  else
    return false

/-- Leave the given token behind, which has to be the next one. -/
def require (token : Token) : Composing Unit := do
  if !(← accept token) then
    throw .malformed

/-- The next token is one of several. -/
def nextIn (tokens : List Token) : Composing Bool := do
  return tokens.contains (← peek)

/-- The name and the tag in front of a node. -/
structure Properties where
  anchor : Option Text
  tag : Option (Option Text × Text)

/-- The name in front of a node, if there is one. -/
def anchor? : Composing (Option Text) := do
  match ← peek with
  | .anchor found => do
      drop
      return some found
  | _ => return none

/-- The tag in front of a node, if there is one. -/
def tag? : Composing (Option (Option Text × Text)) := do
  match ← peek with
  | .tag handle suffix => do
      drop
      return some (handle, suffix)
  | _ => return none

/-- The name and the tag in front of a node, in either order. -/
def properties : Composing Properties := do
  match ← anchor? with
  | some anchor => return ⟨some anchor, ← tag?⟩
  | none =>
      match ← tag? with
      | some tag => return ⟨← anchor?, some tag⟩
      | none => return ⟨none, none⟩

/-- A tag with the text that its handle stands for. -/
def resolveTag : Option (Option Text × Text) → Composing (Option Text)
  | none => return none
  | some (none, suffix) => return some suffix
  | some (some handle, suffix) => do
      match (← get).handles.lookup handle with
      | none => throw .malformed
      | some leading => return some (leading ++ suffix)

/-- A single exclamation mark as a tag leaves the kind to the content. -/
def explicitTag? (tag : Option Text) : Option Tag :=
  match tag with
  | none => none
  | some text => if text = "!" then none else some (.ofText text)

/-- The kind of a scalar.  An untagged scalar in quotes is a text. -/
def scalarTag (tag : Option Text) (plain : Bool) (content : Text) : Tag :=
  match explicitTag? tag with
  | some explicit => explicit
  | none =>
      if plain || tag.isSome then .implicit content else .str

/-- Give a name to the node that is about to be read.  A name may be given
once. -/
def declare (anchor : Option Text) (tag : Tag) : Composing Unit := do
  match anchor with
  | none => return ()
  | some name =>
      let composer ← get
      if (composer.anchors.lookup name).isSome then
        throw .malformed
      set { composer with anchors := (name, .loop tag) :: composer.anchors }

/-- Let a name stand for the node that has been read. -/
def define (anchor : Option Text) (node : Node) : Composing Unit := do
  match anchor with
  | none => return ()
  | some name =>
      modify fun composer =>
        { composer with anchors := (name, node) :: composer.anchors }

/-- The node of a name. -/
def resolveAlias (name : Text) : Composing Node := do
  match (← get).anchors.lookup name with
  | none => throw .malformed
  | some node => return node

mutual

/-- A node.  Blocks are read where `block` holds, items without an opening
mark where `indentless` holds.  The first argument bounds the number of
tokens, the second one counts the enclosing nodes. -/
def node (block indentless : Bool) : Nat → Nat → Composing Node
  | 0, _ => throw .malformed
  | bound + 1, depth => do
      if (← get).room < depth then
        throw .tooDeep
      if let .alias found ← peek then
        drop
        return ← resolveAlias found
      let properties ← properties
      let tag ← resolveTag properties.tag
      let anchor := properties.anchor
      let sequenceOf (items : Composing (List Node)) : Composing Node := do
        let kind := (explicitTag? tag).getD .seq
        declare anchor kind
        let node := Node.sequence kind (← items)
        define anchor node
        return node
      let mappingOf (pairs : Composing (List (Node × Node))) :
          Composing Node := do
        let kind := (explicitTag? tag).getD .map
        declare anchor kind
        let node := Node.mapping kind (← pairs)
        define anchor node
        return node
      let scalarOf (plain : Bool) (content : Text) : Composing Node := do
        let kind := scalarTag tag plain content
        declare anchor kind
        let node := Node.scalar kind content
        define anchor node
        return node
      match ← peek with
      | .blockEntry =>
          if indentless then
            sequenceOf (indentlessItems bound (depth + 1))
          else
            bare properties scalarOf
      | .scalar content plain => do
          drop
          scalarOf plain content
      | .flowSequenceStart => do
          drop
          sequenceOf (flowItems true bound (depth + 1))
      | .flowMappingStart => do
          drop
          mappingOf (flowPairs true bound (depth + 1))
      | .blockSequenceStart =>
          if block then do
            drop
            sequenceOf (blockItems bound (depth + 1))
          else
            bare properties scalarOf
      | .blockMappingStart =>
          if block then do
            drop
            mappingOf (blockPairs bound (depth + 1))
          else
            bare properties scalarOf
      | _ => bare properties scalarOf
termination_by structural bound => bound
where
  /-- A node without content, which needs a name or a tag. -/
  bare (properties : Properties) (scalarOf : Bool → Text → Composing Node) :
      Composing Node :=
    if properties.anchor.isSome || properties.tag.isSome then
      scalarOf properties.tag.isNone []
    else
      throw .malformed

/-- A node, or the empty scalar if one of the given tokens is next. -/
def nodeUnless (stops : List Token) (block indentless : Bool) :
    Nat → Nat → Composing Node
  | 0, _ => throw .malformed
  | bound + 1, depth => do
      if ← nextIn stops then
        return .empty
      else
        node block indentless bound depth
termination_by structural bound => bound

def flowItems (first : Bool) : Nat → Nat → Composing (List Node)
  | 0, _ => throw .malformed
  | bound + 1, depth => do
      if ← accept .flowSequenceEnd then
        return []
      if !first then
        require .flowEntry
      if ← accept .key then
        let key ← nodeUnless [.value, .flowEntry, .flowSequenceEnd] false
          false bound (depth + 1)
        let value ← flowValue .flowSequenceEnd bound (depth + 1)
        let items ← flowItems false bound depth
        return .mapping .map [(key, value)] :: items
      else if ← accept .flowSequenceEnd then
        return []
      else
        let item ← node false false bound depth
        let items ← flowItems false bound depth
        return item :: items
termination_by structural bound => bound

/-- The value behind a key in brackets, which may be missing. -/
def flowValue (closing : Token) : Nat → Nat → Composing Node
  | 0, _ => throw .malformed
  | bound + 1, depth => do
      if ← accept .value then
        nodeUnless [.flowEntry, closing] false false bound depth
      else
        return .empty
termination_by structural bound => bound

def flowPairs (first : Bool) : Nat → Nat → Composing (List (Node × Node))
  | 0, _ => throw .malformed
  | bound + 1, depth => do
      if ← accept .flowMappingEnd then
        return []
      if !first then
        require .flowEntry
      if ← accept .key then
        let key ← nodeUnless [.value, .flowEntry, .flowMappingEnd] false
          false bound depth
        let value ← flowValue .flowMappingEnd bound depth
        let pairs ← flowPairs false bound depth
        return (key, value) :: pairs
      else if ← accept .flowMappingEnd then
        return []
      else
        let key ← node false false bound depth
        let pairs ← flowPairs false bound depth
        return (key, .empty) :: pairs
termination_by structural bound => bound

def blockItems : Nat → Nat → Composing (List Node)
  | 0, _ => throw .malformed
  | bound + 1, depth => do
      if ← accept .blockEntry then
        let item ← nodeUnless [.blockEntry, .blockEnd] true false bound depth
        let items ← blockItems bound depth
        return item :: items
      else
        require .blockEnd
        return []
termination_by structural bound => bound

/-- The items of a block that is indented like the key in front of it. -/
def indentlessItems : Nat → Nat → Composing (List Node)
  | 0, _ => throw .malformed
  | bound + 1, depth => do
      if ← accept .blockEntry then
        let item ← nodeUnless [.blockEntry, .key, .value, .blockEnd] true
          false bound depth
        let items ← indentlessItems bound depth
        return item :: items
      else
        return []
termination_by structural bound => bound

def blockPairs : Nat → Nat → Composing (List (Node × Node))
  | 0, _ => throw .malformed
  | bound + 1, depth => do
      let stops := [Token.key, .value, .blockEnd]
      if ← accept .key then
        let key ← nodeUnless stops true true bound depth
        let value ← blockValue bound depth
        let pairs ← blockPairs bound depth
        return (key, value) :: pairs
      else
        require .blockEnd
        return []
termination_by structural bound => bound

/-- The value behind a key of a block, which may be missing. -/
def blockValue : Nat → Nat → Composing Node
  | 0, _ => throw .malformed
  | bound + 1, depth => do
      if ← accept .value then
        nodeUnless [.key, .value, .blockEnd] true true bound depth
      else
        return .empty
termination_by structural bound => bound

end

end Composing
end Yaml
end VestingContract
