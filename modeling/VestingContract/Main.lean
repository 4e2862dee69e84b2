import Std.Time.DateTime.Timestamp
import VestingContract.CommandLine.Command
import VestingContract.Config.Shipped

/-!
# The program

A call of the command on the files of the system.  The files that the call can
reach are read into a world, the command is run there, and what it has changed
is carried back.
-/

namespace VestingContract
namespace Program

/-- The text of a string that may hold any characters. -/
def stringOf (text : Text) : String :=
  String.ofList (text.map fun
    | .scalar char => char
    | .surrogate _ => '\uFFFD')

/-- An absolute path as the system takes it. -/
def systemPath (names : List Text) : String :=
  "/" ++ "/".intercalate (names.map stringOf)

/-- What stands at an absolute path of the system. -/
def readNode (identity : Nat) (names : List Text) : IO (Option Node) := do
  let path := systemPath names
  try
    let file ← IO.FS.Handle.mk path .read
    let content ← file.readBinToEnd
    return some (.file identity content.toList)
  catch _ =>
    let place := (← IO.currentDir) / path
    return if ← place.isDir then some .directory else none

/-- Add what stands at an absolute path, and at the paths above it, to a
tree. -/
def addPath (tree : FileTree) (names : List Text) : IO FileTree :=
  (List.range (names.length + 1)).foldlM (fun tree length => do
    let path := names.take length
    if path.isEmpty || (tree.node? path).isSome then
      return tree
    match ← readNode tree.nextIdentity path with
    | none => return tree
    | some node =>
        return { tree.put path node with
          nextIdentity := tree.nextIdentity + 1 }) tree

/-- The paths that a call can reach, once its configuration is known. -/
def reachable (options : Options) (shipped : PathName)
    (configuration : Option Configuration) : List PathName :=
  let given := options.config.map PathName.ofText
  let configured :=
    match configuration with
    | none => []
    | some found =>
        let found := found.withPaths (options.input.map PathName.ofText)
          (options.output.map PathName.ofText)
        [found.input, found.output] ++
          (found.logging.file.map PathName.ofText).toList
  given.getD shipped :: configured

/-- Add what stands at paths to the files of a world. -/
def addPaths (world : World) (paths : List PathName) : IO World := do
  let files ← paths.foldlM (fun tree path =>
    addPath tree (tree.absolute path).names) world.files
  return { world with files := files }

/-- The moment as a number of seconds. -/
def clock : IO Value := do
  let now ← Std.Time.Timestamp.now
  let nanoseconds := now.toNanosecondsSinceUnixEpoch.val
  return .float (.ofRatio (nanoseconds < 0) nanoseconds.natAbs 1000000000)

/-- The world of a call before any file is looked at.  The shipped
configuration stands beside the program. -/
def emptyWorld : IO World := do
  let namesOf (path : String) := (PathName.ofText path).names
  let working := namesOf (toString (← IO.currentDir))
  let program := namesOf (toString (← IO.appPath))
  let shipped := program.dropLast ++ [("generator.yaml" : Text)]
  let content := Utf8.encodeChars shippedConfiguration.toList
  return {
    files :=
      { nodes := [(shipped, .file 0 content)]
        workingDirectory := working
        nextIdentity := 1 }
    logging := .initial
    output := []
    errors := []
    uses := []
    clock := ← clock
    terminal := ← (← IO.getStderr).isTty
    shipped := ⟨1, shipped⟩ }

/-- The world of a call with all files that the call can reach. -/
def worldOf (options : Options) : IO World := do
  let world ← emptyWorld
  let world ← addPaths world [.ofText "."]
  let world ← addPaths world (reachable options world.shipped none)
  let (loaded, _) :=
    (Configuration.load (options.config.map PathName.ofText)).run world
  addPaths world (reachable options world.shipped loaded.toOption)

/-- Carry a node back to the system.  A file that only grew is added to, any
other file takes its place in one step. -/
def writeNode (before : Option Node) (names : List Text) : Node → IO Unit
  | .directory => IO.FS.createDirAll (systemPath names)
  | .file _ content => do
      let path := systemPath names
      let old := match before with
        | some (.file _ content) => content
        | _ => []
      if before.isSome && old.isPrefixOf content then
        let file ← IO.FS.Handle.mk path .append
        file.write ⟨(content.drop old.length).toArray⟩
      else
        let temporary := path ++ ".part"
        IO.FS.writeBinFile temporary ⟨content.toArray⟩
        IO.FS.rename temporary path

/-- Carry what has changed in a tree back to the system. -/
def writeChanges (before after : FileTree) : IO Unit :=
  after.nodes.forM fun entry => do
    let old := before.node? entry.1
    if old != some entry.2 then
      writeNode old entry.1 entry.2

/-- Run the command in the world of its arguments. -/
def call (arguments : List Text) : IO UInt32 := do
  let world ←
    match Request.ofArguments arguments with
    | .ok (.run options) => worldOf options
    | _ => emptyWorld
  let (outcome, after) := (command arguments []).run world
  writeChanges world.files after.files
  (← IO.getStderr).putStr (stringOf after.errors)
  (← IO.getStdout).putStr (stringOf after.output)
  match outcome with
  | .ok ending => return UInt32.ofNat ending.status
  | .error failure =>
      (← IO.getStderr).putStrLn (stringOf failure.message)
      return 1

end Program
end VestingContract

/-- Run the command with the arguments of the program. -/
def main (arguments : List String) : IO UInt32 :=
  VestingContract.Program.call (arguments.map VestingContract.Text.ofString)
