import VestingContract.Text.Utf8

/-!
# Path names

A path is a number of leading slashes and the names behind them.  Empty names
and names of a single point lead nowhere and are left out, so that two
spellings of one path are equal.
-/

namespace VestingContract

/-- A path; exactly two leading slashes are kept apart from one. -/
structure PathName where
  slashes : Nat
  names : List Text
  deriving DecidableEq, Repr

/-- Why a path cannot be handed to the system. -/
inductive PathFault where
  | nullByte
  | encoding (fault : Utf8.EncodeFault)
  deriving DecidableEq, Repr

def PathFault.message : PathFault → Text
  | nullByte => "embedded null byte"
  | encoding fault => fault.message

namespace PathName

def ofText (text : Text) : PathName :=
  let leading := (text.takeWhile (· == .scalar '/')).length
  { slashes := if leading = 2 then 2 else min leading 1
    names := (Text.splitOn (.scalar '/') text).filter fun name =>
      !name.isEmpty && name != [CodePoint.scalar '.'] }

/-- The spelling of a path; the path that leads nowhere is a point. -/
def toText (path : PathName) : Text :=
  let spelled := List.replicate path.slashes (.scalar '/') ++
    Text.join "/" path.names
  if spelled.isEmpty then "." else spelled

/-- The path without its last name. -/
def parent (path : PathName) : PathName :=
  { path with names := path.names.dropLast }

/-- The last name of a path, if it has one. -/
def name (path : PathName) : Text :=
  path.names.getLast?.getD []

/-- A path with one more name. -/
def child (path : PathName) (name : Text) : PathName :=
  { path with names := path.names ++ [name] }

/-- A surrogate that stands for a byte of a name that is no valid text. -/
def isEscapedByte (codePoint : CodePoint) : Bool :=
  0xDC80 ≤ codePoint.value && codePoint.value ≤ 0xDCFF

/-- The number of bytes of a text in the names of files. -/
def byteSize (text : Text) : Nat :=
  text.foldl (fun size codePoint =>
    match codePoint with
    | .scalar char => size + char.utf8Size
    | .surrogate _ => size + 1) 0

/-- A text that the system takes as a path: all of it has an encoding, and
it holds no null byte. -/
def check (text : Text) : Except PathFault Unit :=
  match Utf8.firstSurrogates? (text.map fun codePoint =>
      if isEscapedByte codePoint then .scalar '?' else codePoint) with
  | some fault => .error (.encoding fault)
  | none =>
      if text.contains (.scalar '\x00') then .error .nullByte else .ok ()

end PathName
end VestingContract
