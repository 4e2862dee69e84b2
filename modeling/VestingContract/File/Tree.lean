import VestingContract.File.PathName

/-!
# Trees of files

The files and directories of a system by their absolute paths.  A file has an
identity, which a handle keeps when the file loses its name.  All operations
follow a path name by name, as the system does, and fail as the system does.
-/

namespace VestingContract

/-- The errors of the system. -/
inductive SystemError where
  | noEntry
  | inputOutput
  | busy
  | alreadyExists
  | notDirectory
  | isDirectory
  | fileTooBig
  | noSpace
  | readOnly
  | nameTooLong
  | tooLarge
  | quotaExceeded
  deriving DecidableEq, Repr

namespace SystemError

def number : SystemError → Nat
  | noEntry => 2
  | inputOutput => 5
  | busy => 16
  | alreadyExists => 17
  | notDirectory => 20
  | isDirectory => 21
  | fileTooBig => 27
  | noSpace => 28
  | readOnly => 30
  | nameTooLong => 36
  | tooLarge => 75
  | quotaExceeded => 122

def message : SystemError → Text
  | noEntry => "No such file or directory"
  | inputOutput => "Input/output error"
  | busy => "Device or resource busy"
  | alreadyExists => "File exists"
  | notDirectory => "Not a directory"
  | isDirectory => "Is a directory"
  | fileTooBig => "File too large"
  | noSpace => "No space left on device"
  | readOnly => "Read-only file system"
  | nameTooLong => "File name too long"
  | tooLarge => "Value too large for defined data type"
  | quotaExceeded => "Disk quota exceeded"

end SystemError

/-- What a path leads to. -/
inductive Node where
  | directory
  | file (identity : Nat) (content : List UInt8)
  deriving DecidableEq, Repr

/-- The files and directories of a system. -/
structure FileTree where
  nodes : List (List Text × Node)
  workingDirectory : List Text
  nextIdentity : Nat
  deriving DecidableEq, Repr

/-- The end of a path: something that is there, or a free name in a
directory. -/
inductive Place where
  | present (path : List Text) (node : Node)
  | free (directory : List Text) (name : Text)
  deriving DecidableEq, Repr

/-- The greatest number of bytes of a name. -/
def nameLimit : Nat := 255

/-- The number of bytes that no path reaches. -/
def pathLimit : Nat := 4096

namespace FileTree

/-- What stands at an absolute path; the root is always a directory. -/
def node? (tree : FileTree) (path : List Text) : Option Node :=
  if path.isEmpty then some .directory else tree.nodes.lookup path

/-- Follow names from a place. -/
def walk (tree : FileTree) (current : List Text) :
    List Text → Except SystemError Place
  | [] =>
      match tree.node? current with
      | some node => .ok (.present current node)
      | none => .error .noEntry
  | name :: rest =>
      match tree.node? current with
      | none => .error .noEntry
      | some (.file ..) => .error .notDirectory
      | some .directory =>
          if nameLimit < PathName.byteSize name then
            .error .nameTooLong
          else if name = ".." then
            tree.walk current.dropLast rest
          else
            let next := current ++ [name]
            match tree.node? next, rest with
            | some _, rest => tree.walk next rest
            | none, [] => .ok (.free current name)
            | none, _ => .error .noEntry

/-- Follow a path from the root or from the working directory. -/
def find (tree : FileTree) (path : PathName) : Except SystemError Place :=
  if pathLimit ≤ PathName.byteSize path.toText then
    .error .nameTooLong
  else
    tree.walk (if path.slashes = 0 then tree.workingDirectory else [])
      path.names

/-- A tree with a node at a path. -/
def put (tree : FileTree) (path : List Text) (node : Node) : FileTree :=
  { tree with
    nodes := if (tree.nodes.lookup path).isSome then
        tree.nodes.map fun entry =>
          if entry.1 = path then (path, node) else entry
      else
        tree.nodes ++ [(path, node)] }

/-- A tree without the node at a path and without all that is below it. -/
def erase (tree : FileTree) (path : List Text) : FileTree :=
  { tree with nodes := tree.nodes.filter fun entry =>
      !path.isPrefixOf entry.1 }

/-- The content of a file. -/
def read (tree : FileTree) (path : PathName) :
    Except SystemError (List UInt8) := do
  match ← tree.find path with
  | .present _ (.file _ content) => return content
  | .present _ .directory => throw .isDirectory
  | .free .. => throw .noEntry

def makeDirectory (tree : FileTree) (path : PathName) :
    Except SystemError FileTree := do
  match ← tree.find path with
  | .present .. => throw .alreadyExists
  | .free directory name => return tree.put (directory ++ [name]) .directory

/-- Create an empty file at a free place. -/
def createAt (tree : FileTree) (path : List Text) : Nat × FileTree :=
  (tree.nextIdentity,
    { tree.put path (.file tree.nextIdentity []) with
      nextIdentity := tree.nextIdentity + 1 })

/-- Create a file that must not be there yet. -/
def createNew (tree : FileTree) (path : PathName) :
    Except SystemError (Nat × FileTree) := do
  match ← tree.find path with
  | .present .. => throw .alreadyExists
  | .free directory name => return tree.createAt (directory ++ [name])

/-- Open a file for additions; it is created if its place is free. -/
def openToAppend (tree : FileTree) (path : PathName) :
    Except SystemError (Nat × FileTree) := do
  match ← tree.find path with
  | .present _ (.file identity _) => return (identity, tree)
  | .present _ .directory => throw .isDirectory
  | .free directory name => return tree.createAt (directory ++ [name])

/-- Add bytes to the file of an identity, wherever it is now. -/
def append (tree : FileTree) (identity : Nat) (bytes : List UInt8) :
    FileTree :=
  { tree with nodes := tree.nodes.map fun entry =>
      match entry with
      | (path, .file owner content) =>
          if owner = identity then (path, .file owner (content ++ bytes))
          else entry
      | entry => entry }

/-- Give a file the place of a path.  A file that is there is replaced, a
directory is not. -/
def rename (tree : FileTree) (source target : PathName) :
    Except SystemError FileTree := do
  match ← tree.find source with
  | .present sourcePath (.file identity content) =>
      let last := target.names.getLast?
      let place ← tree.find target
      if last = none ∨ last = some ".." then
        throw .busy
      match place with
      | .present _ .directory => throw .isDirectory
      | .present targetPath (.file ..) =>
          return (tree.erase sourcePath).put targetPath
            (.file identity content)
      | .free directory name =>
          return (tree.erase sourcePath).put (directory ++ [name])
            (.file identity content)
  | .present _ .directory => throw .isDirectory
  | .free .. => throw .noEntry

/-- Remove a file or a directory with all that is below it, if it is
there. -/
def remove (tree : FileTree) (path : PathName) : FileTree :=
  match tree.find path with
  | .ok (.present found _) => tree.erase found
  | _ => tree

/-- An absolute path without its steps upward. -/
def resolveUpward : List Text → List Text → List Text
  | resolved, [] => resolved
  | resolved, name :: rest =>
      if name = ".." then resolveUpward resolved.dropLast rest
      else resolveUpward (resolved ++ [name]) rest

/-- The absolute path that a path spells, read without looking at the
tree. -/
def absolute (tree : FileTree) (path : PathName) : PathName :=
  { slashes := max path.slashes 1
    names := resolveUpward []
      (if path.slashes = 0 then tree.workingDirectory ++ path.names
        else path.names) }

end FileTree
end VestingContract
