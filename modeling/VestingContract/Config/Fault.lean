import VestingContract.File.PathName
import VestingContract.Value.Display
import VestingContract.Yaml.Fault

/-!
# Faults of configurations

Why the content of a file is no configuration: it is no mapping, a key is
missing, a value is of a kind that cannot be used, or a value is refused.
What the steps of reading raise has classes of its own, and the clauses around
the steps make faults of configurations of some of these classes.
-/

namespace VestingContract

/-- Why a value is of the wrong kind. -/
inductive TypeFault where
  | textWithoutMembers
  | positionsOnly (what : Text)
  | withoutMembers (kind : Text)
  | bytesAsPath
  | notAPath (kind : Text)
  deriving DecidableEq, Repr

def TypeFault.message : TypeFault → Text
  | textWithoutMembers => "string indices must be integers, not 'str'"
  | positionsOnly what =>
      what ++ " indices must be integers or slices, not str"
  | withoutMembers kind => "'" ++ kind ++ "' object is not subscriptable"
  | bytesAsPath =>
      "argument should be a str object or an os.PathLike object " ++
        "returning str, not <class 'bytes'>"
  | notAPath kind =>
      "expected str, bytes or os.PathLike object, not " ++ kind

/-- Why a value cannot be used: it is of the wrong kind, it has no text, or it
lacks what sections are read by. -/
inductive ValueFault where
  | type (fault : TypeFault)
  | unspellable (fault : UnspellableWhole)
  | withoutKeys (kind : Text)
  deriving DecidableEq, Repr

def ValueFault.message : ValueFault → Text
  | type fault => fault.message
  | unspellable fault => fault.message
  | withoutKeys kind => "'" ++ kind ++ "' object has no attribute 'get'"

/-- Why there is no configuration. -/
inductive ConfigFault where
  | malformed (path : PathName)
  | empty (path : PathName)
  | notAMapping (path : PathName)
  | missingKey (key : Text)
  | invalidValue (fault : ValueFault)
  | blankInput
  | blankOutput
  | samePaths (path : PathName)
  | notAnIdentifier (field value : Text)
  | blankPragma
  | license (value : Text)
  | importPath (value : Text)
  | level (value : Text)
  deriving DecidableEq, Repr

/-- The names of the levels that a configuration may ask for. -/
def configurableLevels : List Text :=
  ["DEBUG", "INFO", "WARNING", "ERROR", "CRITICAL"]

def ConfigFault.message : ConfigFault → Text
  | malformed path =>
      "Malformed YAML in " ++ path.toText ++ ": " ++
        Yaml.Fault.malformed.message
  | empty path => "Empty configuration file: " ++ path.toText
  | notAMapping path =>
      "Configuration root must be a mapping: " ++ path.toText
  | missingKey key =>
      "Missing required configuration key: " ++ key.quoted
  | invalidValue fault => "Invalid configuration value: " ++ fault.message
  | blankInput => "paths.input must not be empty"
  | blankOutput => "paths.output must not be empty"
  | samePaths path =>
      "paths.input and paths.output must differ, both are " ++ path.toText
  | notAnIdentifier field value =>
      "template." ++ field ++ " must be a Solidity identifier, got " ++
        value.quoted
  | blankPragma => "template.pragma must not be empty"
  | license value =>
      "template.license must be a single line, got " ++ value.quoted
  | importPath value =>
      "template.import_path must be a non-empty path without quotes, got " ++
        value.quoted
  | level value =>
      "logging.level must be one of " ++ Text.join ", " configurableLevels ++
        ", got " ++ value.quoted

/-- What the reading of a configuration raises, by class: an error of a key, of
a type, of a value or of an attribute, too many calls inside each other, or a
fault of the configuration. -/
inductive ReadingError where
  | key (name : Text)
  | type (fault : TypeFault)
  | value (fault : UnspellableWhole)
  | withoutKeys (kind : Text)
  | recursion
  | refused (fault : ConfigFault)
  deriving DecidableEq, Repr

namespace ReadingError

/-- What is raised where a value has no text. -/
def ofShowing : ShowFault → ReadingError
  | .unspellable fault => value fault
  | .tooDeep => recursion

def message : ReadingError → Text
  | key name => name.quoted
  | type fault => fault.message
  | value fault => fault.message
  | withoutKeys kind => (ValueFault.withoutKeys kind).message
  | recursion => ShowFault.tooDeep.message
  | refused fault => fault.message

/-- The clauses around the reading.  The first one takes errors of keys, the
second one those of types, values and attributes; whatever no clause takes is
raised as it is. -/
def caught : ReadingError → ReadingError
  | key name => refused (.missingKey name)
  | type fault => refused (.invalidValue (.type fault))
  | value fault => refused (.invalidValue (.unspellable fault))
  | withoutKeys kind => refused (.invalidValue (.withoutKeys kind))
  | error => error

end ReadingError
end VestingContract
