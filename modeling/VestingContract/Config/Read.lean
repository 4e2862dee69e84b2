import VestingContract.Config.Check
import VestingContract.Text.Case
import VestingContract.Value.Display
import VestingContract.Value.Key

/-!
# Reading configurations

The configuration that a decoded document holds.  The paths are required;
the sections for the template and for logging may be missing or empty, and so
may each of their keys.
-/

namespace VestingContract

/-- The member of a value under a name. -/
def Value.member (value : Value) (key : Text) : Except ReadingError Value :=
  match value with
  | .map pairs =>
      match lookup? key pairs with
      | some found => .ok found
      | none => .error (.key key)
  | .text _ => .error (.type .textWithoutMembers)
  | .list _ => .error (.type (.positionsOnly "list"))
  | .tuple _ => .error (.type (.positionsOnly "tuple"))
  | .bytes _ => .error (.type (.positionsOnly "byte"))
  | value => .error (.type (.withoutMembers value.qualifiedKind))

/-- A value as a path. -/
def Value.toPath : Value → Except ReadingError PathName
  | .text content => .ok (PathName.ofText content)
  | .bytes _ => .error (.type .bytesAsPath)
  | value => .error (.type (.notAPath value.kind))

/-- The displayed text of a value of a configuration. -/
def Value.toSetting (room : Nat) (value : Value) : Except ReadingError Text :=
  (value.display room).mapError .ofShowing

/-- The pairs of a section.  A value that counts as false is no section. -/
def sectionOf? (value : Value) :
    Except ReadingError (Option (List (Value × Value))) :=
  if !value.isTruthy then
    .ok none
  else
    match value with
    | .map pairs => .ok (some pairs)
    | value => .error (.withoutKeys value.qualifiedKind)

/-- The text under a key of a section, or the given one. -/
def settingOr (room : Nat) (pairs : List (Value × Value))
    (key standard : Text) : Except ReadingError Text :=
  match Value.lookup? key pairs with
  | none => .ok standard
  | some value => value.toSetting room

/-- The template of a section. -/
def Template.ofSection (room : Nat) (value : Value) :
    Except ReadingError Template := do
  match ← sectionOf? value with
  | none => return .standard
  | some pairs =>
      let setting := settingOr room pairs
      return {
        license := ← setting "license" standard.license
        pragma := ← setting "pragma" standard.pragma
        importPath := ← setting "import_path" standard.importPath
        contractName := ← setting "contract_name" standard.contractName
        libraryName := ← setting "library_name" standard.libraryName
        structName := ← setting "struct_name" standard.structName
        arrayName := ← setting "array_name" standard.arrayName }

/-- The options of a section. -/
def LogOptions.ofSection (room : Nat) (value : Value) :
    Except ReadingError LogOptions := do
  match ← sectionOf? value with
  | none => return .standard
  | some pairs =>
      let file := (Value.lookup? "file" pairs).getD .null
      let level ← settingOr room pairs "level" standard.level
      return {
        level := level.toUpper
        file := ←
          if file.isTruthy then some <$> file.toSetting room else pure none
        json := ((Value.lookup? "json" pairs).getD .null).isTruthy }

/-- The configuration of a mapping, before it is checked. -/
def Configuration.ofPairs (room : Nat) (pairs : List (Value × Value)) :
    Except ReadingError Configuration := do
  let paths ← (Value.map pairs).member "paths"
  let input ← (← paths.member "input").toPath
  let output ← (← paths.member "output").toPath
  let optionalMember (key : Text) : Value :=
    (Value.lookup? key pairs).getD .null
  let template ← Template.ofSection room (optionalMember "template")
  let logging ← LogOptions.ofSection room (optionalMember "logging")
  return ⟨input, output, template, logging⟩

/-- The checked configuration of a decoded document, which stands at a path.
There is room for some containers inside each other in the text of a
setting. -/
def Configuration.ofValue (room : Nat) (path : PathName) :
    Value → Except ReadingError Configuration
  | .null => .error (.refused (.empty path))
  | .map pairs =>
      let checked : Except ReadingError Configuration := do
        let configuration ← ofPairs room pairs
        configuration.check.mapError .refused
        return configuration
      checked.mapError .caught
  | _ => .error (.refused (.notAMapping path))

end VestingContract
