import VestingContract.Yaml.Interpreter
import VestingContract.Yaml.Node

/-!
# Documents

The root node of bytes that hold one document at most.  Instructions in front
of it declare the handles of its tags.
-/

namespace VestingContract
namespace Yaml

/-- The handles that need no declaration. -/
def standardHandles : List (Text × Text) :=
  [("!", "!"), ("!!", Tag.standardLead)]

namespace Composing

/-- Read the instructions in front of a document.  At most one of them asks
for a version, of which the first number is one, and each handle is declared
once.  The first argument bounds their number. -/
def directives (versioned : Bool) (declared : List (Text × Text)) :
    Nat → Composing (List (Text × Text))
  | 0 => throw .malformed
  | bound + 1 => do
      match ← peek with
      | .directive (.version major) => do
          if versioned ∨ major ≠ 1 then
            throw .malformed
          drop
          directives true declared bound
      | .directive (.handle handle leading) => do
          if (declared.lookup handle).isSome then
            throw .malformed
          drop
          directives versioned ((handle, leading) :: declared) bound
      | .directive .other => do
          drop
          directives versioned declared bound
      | _ => return declared

/-- Read the instructions and the mark in front of a document. -/
def documentStart (bound : Nat) : Composing Unit := do
  let declared ← directives false [] bound
  require .documentStart
  modify fun composer =>
    { composer with handles := declared ++ standardHandles }

/-- Leave the marks behind a document behind.  The argument bounds their
number. -/
def documentEnds : Nat → Composing Unit
  | 0 => return ()
  | bound + 1 => do
      if ← accept .documentEnd then
        documentEnds bound

/-- The root of the only document, if there is one. -/
def document (bound : Nat) : Composing (Option Node) := do
  if (← peek) = .streamEnd then
    return none
  let root ←
    match ← peek with
    | .directive _ | .documentStart => do
        documentStart bound
        nodeUnless [.documentStart, .documentEnd, .streamEnd] true false
          bound 0
    | _ => node true false bound 0
  documentEnds bound
  if (← peek) ≠ .streamEnd then
    documentStart bound
    throw .malformed
  return some root

end Composing

/-- What is met instead of a token that is not settled. -/
def Stream.beyond (interpreter : Interpreter) (stream : Stream)
    (scanner : Scanner) : Option Fault :=
  match stream.broken with
  | none => none
  | some broken =>
      if interpreter.asksOn scanner then some broken.toFault else none

/-- The root of the only document in a stream, if there is one.  It is not
known before the end of the stream. -/
def rootOf (interpreter : Interpreter) (stream : Stream) :
    Except Fault (Option Node) := do
  let (tokens, fault) := tokensOf (stream.beyond interpreter) stream.chars
  let bound := 4 * tokens.length + 16
  let composer : Composer :=
    ⟨tokens, fault, [], standardHandles, interpreter.nodes⟩
  let (root, _) ← (Composing.document bound).run composer
  match stream.broken with
  | none => return root
  | some broken => throw broken.toFault

end Yaml
end VestingContract
