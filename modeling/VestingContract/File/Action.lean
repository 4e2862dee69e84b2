import VestingContract.File.Device
import VestingContract.Number.Power

/-!
# Work on files

The operations of a tree with faults that name their paths, and the way in
which an artifact is replaced: a temporary file beside the target is written
in full and then takes the target's place.
-/

namespace VestingContract

/-- Which file is missing that a caller named. -/
inductive MissingFile where
  | dataset
  | configuration
  | document
  deriving DecidableEq, Repr

/-- Why work on files fails. -/
inductive FileFault where
  | system (error : SystemError) (path : Text)
  | systemBetween (error : SystemError) (source target : Text)
  | plainSystem (error : SystemError)
  | missing (which : MissingFile) (path : Text)
  | reported (message : Text)
  deriving DecidableEq, Repr

/-- The wording of a fault, its paths between quote marks. -/
def FileFault.message : FileFault → Text
  | system error path =>
      numbered error ++ ": " ++ path.quoted
  | systemBetween error source target =>
      numbered error ++ ": " ++ source.quoted ++ " -> " ++ target.quoted
  | plainSystem error => numbered error
  | missing .dataset path => "Allocation dataset not found: " ++ path
  | missing .configuration path => "Configuration file not found: " ++ path
  | missing .document path => "YAML file not found: " ++ path
  | reported content => content
where
  /-- An error with its number. -/
  numbered (error : SystemError) : Text :=
    "[Errno " ++ Text.ofNat error.number ++ "] " ++ error.message

/-- How work on files ends early. -/
inductive FileFailure where
  | file (fault : FileFault)
  | path (fault : PathFault)
  | encoding (fault : Utf8.EncodeFault)
  deriving DecidableEq, Repr

/-- Work on a tree that may fail.  What was done before a failure stays. -/
abbrev FileAction (α : Type) := ExceptT FileFailure (StateM FileTree) α

namespace FileAction

/-- Run an operation of the tree, naming a path in its error. -/
def ofRead {α : Type} (path : PathName)
    (operation : FileTree → Except SystemError α) : FileAction α := do
  if let .error fault := PathName.check path.toText then
    throw (.path fault)
  match operation (← get) with
  | .ok value => return value
  | .error error => throw (.file (.system error path.toText))

/-- Run an operation that changes the tree, naming a path in its error. -/
def ofChange (path : PathName)
    (operation : FileTree → Except SystemError FileTree) :
    FileAction Unit := do
  set (← ofRead path operation)

/-- Run an operation that changes the tree and has a result, naming a path in
its error. -/
def ofUpdate {α : Type} (path : PathName)
    (operation : FileTree → Except SystemError (α × FileTree)) :
    FileAction α := do
  let (value, tree) ← ofRead path operation
  set tree
  return value

/-- What a path leads to, if anything.  A path that the system cannot take
leads to nothing; a name that is too long is an error. -/
def node? (path : PathName) : FileAction (Option Node) := do
  if let .error _ := PathName.check path.toText then
    return none
  match (← get).find path with
  | .ok (.present _ node) => return some node
  | .ok (.free ..) => return none
  | .error .noEntry | .error .notDirectory => return none
  | .error error => throw (.file (.system error path.toText))

/-- There is something at a path. -/
def pathExists (path : PathName) : FileAction Bool := do
  return (← node? path).isSome

def isFile (path : PathName) : FileAction Bool := do
  match ← node? path with
  | some (.file ..) => return true
  | _ => return false

def isDirectory (path : PathName) : FileAction Bool := do
  match ← node? path with
  | some .directory => return true
  | _ => return false

/-- The content of a file. -/
def read (path : PathName) : FileAction (List UInt8) :=
  ofRead path (·.read path)

/-- Make a directory on a device. -/
def makeDirectory (path : PathName) (device : Device) : FileAction Unit :=
  ofChange path (device.makeDirectory · path)

/-- A failure that is an error of the system. -/
def FileFailure.systemError? : FileFailure → Option SystemError
  | .file (.system error _) => some error
  | _ => none

/-- Make a directory that may be there already. -/
def ensureOne (path : PathName) (device : Device) : FileAction Unit :=
  tryCatch (makeDirectory path device) fun failure =>
    match FileFailure.systemError? failure with
    | none | some .noEntry => throw failure
    | some _ => do
        if !(← isDirectory path) then
          throw failure

/-- Make the directory of reversed names and the directories above it, as
far as they are missing. -/
def ensureReversed (device : Device) (slashes : Nat) :
    List Text → FileAction Unit
  | [] => ensureOne ⟨slashes, []⟩ device
  | last :: above =>
      let path : PathName := ⟨slashes, (last :: above).reverse⟩
      tryCatch (ensureOne path device) fun failure =>
        match FileFailure.systemError? failure with
        | some .noEntry => do
            ensureReversed device slashes above
            ensureOne path device
        | _ => throw failure

/-- Make a directory and the directories above it, as far as they are
missing. -/
def ensureDirectory (path : PathName) (device : Device := .sound) :
    FileAction Unit :=
  ensureReversed device path.slashes path.names.reverse

/-- Open a file for additions; its identity is the handle. -/
def openToAppend (path : PathName) : FileAction Nat :=
  ofUpdate path (·.openToAppend path)

/-- Eight letters and digits that differ from one number to the next. -/
def tag (number : Nat) : Text :=
  let alphabet := "abcdefghijklmnopqrstuvwxyz0123456789_".toList
  Text.ofChars ((List.range 8).map fun place =>
    (alphabet[number / raise 37 place % 37]?).getD 'a')

/-- The number of tags, after which they are the same again. -/
def tagCount : Nat := raise 37 8

/-- The name of a temporary file for a target. -/
def temporaryName (target : Text) (number : Nat) : Text :=
  "." ++ target ++ "." ++ tag number ++ ".tmp"

/-- Create a temporary file beside a target.  A name that is taken is passed
over as often as `attempts` allows. -/
def createTemporary (device : Device) (target : PathName) (number : Nat) :
    Nat → FileAction (PathName × Nat)
  | 0 => throw (.file (.system .alreadyExists target.toText))
  | attempts + 1 => do
      let directory := (← get).absolute target.parent
      let path := directory.child (temporaryName target.name number)
      tryCatch
        (do
          let identity ← ofUpdate path (device.createNew · path)
          return (path, identity))
        fun failure =>
          match FileFailure.systemError? failure with
          | some .alreadyExists =>
              createTemporary device target (number + 1) attempts
          | _ => throw failure

/-- The directories above a target and a temporary file beside it, for which
every tag is tried.  The temporary file is given with its handle. -/
def makeTemporary (device : Device) (target : PathName) :
    FileAction (PathName × Nat) := do
  ensureDirectory target.parent device
  let number := (← get).nextIdentity
  createTemporary device target number tagCount

/-- Add bytes to an open file. -/
def append (identity : Nat) (bytes : List UInt8) : FileAction Unit :=
  modify (·.append identity bytes)

/-- A step on an open file, which the device may refuse. -/
def step (device : Device) (step : DeviceStep) : FileAction Unit :=
  match device.refuses step with
  | some error => throw (.file (.plainSystem error))
  | none => return ()

/-- Write a text in UTF-8 to an open file, as far as the device takes it. -/
def writeBytes (device : Device) (identity : Nat) (text : Text) :
    FileAction Unit := do
  match Utf8.encode text with
  | .error fault => throw (.encoding fault)
  | .ok bytes =>
      append identity (bytes.take device.taken)
      step device .write
      step device .flush
      append identity (bytes.drop device.taken)
      step device .sync

/-- Write a text to a temporary file and close it, whatever has become of the
text.  An error on closing takes the place of another failure. -/
def writeText (device : Device) (identity : Nat) (text : Text) :
    FileAction Unit := do
  step device .open
  tryCatch (writeBytes device identity text) fun failure => do
    step device .close
    throw failure
  step device .close

/-- Move a file to a target, naming both in an error. -/
def rename (device : Device) (source target : PathName) :
    FileAction Unit := do
  match device.rename (← get) source target with
  | .ok tree => set tree
  | .error error =>
      throw (.file (.systemBetween error source.toText target.toText))

def remove (path : PathName) : FileAction Unit :=
  modify (·.remove path)

/-- The temporary file gets a text and takes the place of its target.  An
error of the system removes it, while a text without an encoding leaves it
behind. -/
def fillTemporary (device : Device) (target : PathName) (text : Text)
    (created : PathName × Nat) : FileAction Unit :=
  tryCatch
    (do
      writeText device created.2 text
      rename device created.1 target)
    fun failure => do
      if let .file _ := failure then
        remove created.1
      throw failure

/-- Replace a target by a text in UTF-8. -/
def replaceText (device : Device) (target : PathName) (text : Text) :
    FileAction Unit := do
  let created ← makeTemporary device target
  fillTemporary device target text created

end FileAction
end VestingContract
