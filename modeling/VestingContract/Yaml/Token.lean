import VestingContract.Yaml.Fault

/-!
# Tokens of YAML documents

The indicators, scalars and names of a document, together with the marks that
indentation stands for.
-/

namespace VestingContract
namespace Yaml

/-- An instruction in front of a document. -/
inductive Directive where
  | version (major : Int)
  | handle (handle leading : Text)
  | other
  deriving DecidableEq, Repr

/-- The smallest parts of a document. -/
inductive Token where
  | streamEnd
  | directive (directive : Directive)
  | documentStart
  | documentEnd
  | blockSequenceStart
  | blockMappingStart
  | blockEnd
  | flowSequenceStart
  | flowSequenceEnd
  | flowMappingStart
  | flowMappingEnd
  | flowEntry
  | blockEntry
  | key
  | value
  | alias (name : Text)
  | anchor (name : Text)
  | tag (handle : Option Text) (suffix : Text)
  | scalar (content : Text) (plain : Bool)
  deriving DecidableEq, Repr

end Yaml
end VestingContract
