import VestingContract.Config.Basic
import VestingContract.Config.Fault
import VestingContract.Text.Blank

/-!
# Checking configurations

The rules that the values of a configuration keep.  The first rule that is
broken is reported.
-/

namespace VestingContract

/-- A character that an identifier may begin with. -/
def CodePoint.startsIdentifier : CodePoint → Bool
  | .scalar char => char.isAlpha || char == '_' || char == '$'
  | .surrogate _ => false

/-- A character that an identifier may hold. -/
def CodePoint.continuesIdentifier : CodePoint → Bool
  | .scalar char => char.isAlphanum || char == '_' || char == '$'
  | .surrogate _ => false

namespace Text

/-- A text without the line feed at its end, if there is one. -/
def withoutFinalNewline (text : Text) : Text :=
  if text.getLast? = some (.scalar '\n') then text.dropLast else text

/-- An identifier, on demand with a line feed behind it. -/
def isIdentifierLine (text : Text) : Bool :=
  match text.withoutFinalNewline with
  | [] => false
  | first :: rest =>
      first.startsIdentifier && rest.all CodePoint.continuesIdentifier

end Text

/-- The fields of a template that name parts of a contract. -/
def Template.identifiers (template : Template) : List (Text × Text) :=
  [("contract_name", template.contractName),
    ("library_name", template.libraryName),
    ("struct_name", template.structName),
    ("array_name", template.arrayName)]

/-- The paths of a configuration are not blank and differ. -/
def Configuration.checkPaths (configuration : Configuration) :
    Except ConfigFault Unit := do
  if configuration.input.toText.isBlank then
    throw .blankInput
  if configuration.output.toText.isBlank then
    throw .blankOutput
  if configuration.input = configuration.output then
    throw (.samePaths configuration.input)

/-- The names of a template are identifiers, and its other fields fit into
their lines. -/
def Template.check (template : Template) : Except ConfigFault Unit := do
  match template.identifiers.find? fun field => !field.2.isIdentifierLine with
  | some (field, value) => throw (.notAnIdentifier field value)
  | none => pure ()
  if template.pragma.isBlank then
    throw .blankPragma
  if template.license.isBlank ∨ template.license.contains (.scalar '\n') then
    throw (.license template.license)
  if template.importPath.isBlank ∨
      template.importPath.contains (.scalar '"') then
    throw (.importPath template.importPath)

/-- The level is one that a configuration may ask for. -/
def LogOptions.check (options : LogOptions) : Except ConfigFault Unit := do
  if !configurableLevels.contains options.level then
    throw (.level options.level)

/-- The rules of a configuration in order. -/
def Configuration.check (configuration : Configuration) :
    Except ConfigFault Unit := do
  configuration.checkPaths
  configuration.template.check
  configuration.logging.check

end VestingContract
