import VestingContract.Calendar.Date
import VestingContract.Number.Reading
import VestingContract.Text.Utf8

/-!
# Faults of YAML documents

Whatever breaks the rules of the notation is one fault.  A scalar that looks
like a number, a truth value or a date and is none has a fault of its own.
-/

namespace VestingContract
namespace Yaml

/-- Why bytes are no document. -/
inductive Fault where
  | malformed
  | undecodable (fault : Utf8.DecodeFault)
  | whole (fault : WholeFault)
  | real (source : Text)
  | truthValue (word : Text)
  | emptyNumber
  | notADate
  | calendar (fault : CalendarFault)
  | escapeOutOfRange
  | escapeTooLarge
  | unitTooLarge
  | tooDeep
  deriving DecidableEq, Repr

def Fault.message : Fault → Text
  | malformed => "malformed document"
  | undecodable fault => fault.message
  | whole fault => fault.message
  | real source => "could not convert string to float: " ++ source.quoted
  | truthValue word => word.quoted
  | emptyNumber => "string index out of range"
  | notADate => "'NoneType' object has no attribute 'groupdict'"
  | calendar fault => fault.message
  | escapeOutOfRange => "chr() arg not in range(0x110000)"
  | escapeTooLarge => "Python int too large to convert to C int"
  | unitTooLarge => "int too large to convert to float"
  | tooDeep => "maximum recursion depth exceeded"

end Yaml
end VestingContract
