import VestingContract.File.Device
import VestingContract.Yaml.Interpreter

/-!
# Platforms

What a process finds and does not change.
-/

namespace VestingContract

/-- What a process finds and does not change: the device of its artifacts and
the interpreter that it runs in. -/
structure Platform where
  device : Device
  interpreter : Interpreter

/-- A platform on which nothing is refused. -/
def Platform.plain : Platform where
  device := .sound
  interpreter := .plain

end VestingContract
