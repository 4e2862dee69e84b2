import VestingContract.Dataset.Validation
import VestingContract.Json.Reader
import VestingContract.Text.Blank
import VestingContract.Text.Newlines

/-!
# Datasets in documents

The dataset that the bytes of a file hold.  Numbers keep the text that they
are written with.
-/

namespace VestingContract

/-- Why a source holds no dataset. -/
inductive DocumentFault where
  | undecodable
  | blank
  | malformed (reason : Json.SyntaxReason) (place : Text)
  | nonFinite (name : Text)
  | invalid (fault : DatasetFault)
  | reported (message : Text)
  deriving DecidableEq, Repr

/-- The wording of a fault of a source with a name. -/
def DocumentFault.message (source : Text) : DocumentFault → Text
  | undecodable => "Allocation dataset is not UTF-8: " ++ source
  | blank => "Empty allocation dataset: " ++ source
  | malformed reason place =>
      "Invalid JSON in " ++ source ++ ": " ++ reason.message ++ ": " ++ place
  | nonFinite name => "non-finite number " ++ name ++ " is not allowed"
  | invalid fault => source ++ ": " ++ fault.message
  | reported content => source ++ ": " ++ content

/-- Why the bytes of a file hold no dataset; a document that is nested too
deeply is not looked at any further. -/
inductive ContentFault where
  | document (fault : DocumentFault)
  | tooDeep (container : Json.Container)
  deriving DecidableEq, Repr

/-- The number of arrays and objects that may enclose each other in the
document of a dataset. -/
def nestingLimit : Nat := 980

/-- A fault of the notation with its place in the document. -/
def ContentFault.ofJson (document : List Char) : Json.Fault → ContentFault
  | .malformed reason position =>
      .document (.malformed reason (Json.placeText document position))
  | .nonFinite name => .document (.nonFinite name)
  | .tooDeep container => .tooDeep container

namespace Dataset

/-- The dataset in the characters of a document. -/
def ofDocument (document : List Char) : Except ContentFault Dataset := do
  if (Text.ofChars document).isBlank then
    throw (.document .blank)
  let json ← (Json.read nestingLimit document).mapError
    (ContentFault.ofJson document)
  (Dataset.ofValue (json.toValue fun lexeme =>
    .literal (Text.ofChars lexeme))).mapError
      fun fault => .document (.invalid fault)

/-- The dataset in the bytes of a file; all ways to end a line are one. -/
def ofBytes (bytes : List UInt8) : Except ContentFault Dataset :=
  match Utf8.decode bytes with
  | .error _ => .error (.document .undecodable)
  | .ok chars => ofDocument (unifyNewlines chars)

end Dataset
end VestingContract
