import VestingContract.File.Tree

/-!
# Devices

The device that an artifact is put on may refuse a step on it: it is full or
broken, or nothing may be changed on it.  A step that a tree allows is done
unless the device refuses it.  Log files are kept elsewhere.
-/

namespace VestingContract

/-- The steps on a file that is to be written in full. -/
inductive DeviceStep where
  | create
  | open
  | write
  | flush
  | sync
  | close
  | rename
  deriving DecidableEq, Repr

/-- What a device makes of the steps on an artifact: the directories and the
steps that it refuses, each with an error, and the number of bytes of a text
that it takes before the rest of them is flushed. -/
structure Device where
  refusesDirectory : PathName → Option SystemError
  refuses : DeviceStep → Option SystemError
  taken : Nat

namespace Device

/-- A device that refuses nothing. -/
def sound : Device where
  refusesDirectory _ := none
  refuses _ := none
  taken := 0

/-- The device refuses no step on a file. -/
def TakesFiles (device : Device) : Prop :=
  ∀ step, device.refuses step = none

/-- What an operation of a tree comes to on a device that may refuse it. -/
def unlessRefused {α : Type} (refused : Option SystemError)
    (operation : Except SystemError α) : Except SystemError α := do
  let result ← operation
  match refused with
  | some error => throw error
  | none => return result

/-- An operation has a result if the tree allows it and the device does not
refuse it. -/
theorem unlessRefused_eq_ok_iff {α : Type} {refused : Option SystemError}
    {operation : Except SystemError α} {result : α} :
    unlessRefused refused operation = .ok result ↔
      operation = .ok result ∧ refused = none := by
  cases operation <;> cases refused <;>
    simp [unlessRefused, bind, Except.bind, throw, throwThe, MonadExceptOf.throw,
      pure, Except.pure]

@[simp]
theorem unlessRefused_none {α : Type} (operation : Except SystemError α) :
    unlessRefused none operation = operation := by
  cases operation <;> rfl

variable (device : Device) (tree : FileTree)

def makeDirectory (path : PathName) : Except SystemError FileTree :=
  unlessRefused (device.refusesDirectory path) (tree.makeDirectory path)

/-- Create a file that must not be there yet. -/
def createNew (path : PathName) : Except SystemError (Nat × FileTree) :=
  unlessRefused (device.refuses .create) (tree.createNew path)

/-- Give a file the place of a path. -/
def rename (source target : PathName) : Except SystemError FileTree :=
  unlessRefused (device.refuses .rename) (tree.rename source target)

end Device
end VestingContract
