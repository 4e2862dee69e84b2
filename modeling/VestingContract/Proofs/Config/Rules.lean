import VestingContract.Proofs.Run.Results
import VestingContract.Proofs.Text.Identifiers

/-!
# Rules of configurations

The rules that the values of a configuration keep, told without the order in
which they are checked.  A configuration passes its check just if it keeps
all of them.
-/

namespace VestingContract

/-- The fields of a template may stand in a contract: what passes for a name
names its parts, and no other field is blank, breaks the line of the license
or ends the text of the import. -/
structure Template.IsSound (template : Template) : Prop where
  names : ∀ field ∈ template.identifiers, field.2.IsNameLine
  pragma : template.pragma.isBlank = false
  license : template.license.isBlank = false
  licenseLine : Text.lineFeed ∉ template.license
  importPath : template.importPath.isBlank = false
  importText : .scalar '"' ∉ template.importPath

/-- The paths of a configuration are not blank and differ, its template may
stand in a contract, and its level has a name. -/
structure Configuration.IsSound (configuration : Configuration) : Prop where
  input : configuration.input.toText.isBlank = false
  output : configuration.output.toText.isBlank = false
  paths : configuration.input ≠ configuration.output
  template : configuration.template.IsSound
  level : configuration.logging.level ∈ configurableLevels

theorem Configuration.checkPaths_eq_ok_iff {configuration : Configuration} :
    configuration.checkPaths = .ok () ↔
      configuration.input.toText.isBlank = false ∧
      configuration.output.toText.isBlank = false ∧
      configuration.input ≠ configuration.output := by
  simp only [checkPaths, refuse_bind_eq_ok_iff, refuse_eq_ok_iff,
    Bool.not_eq_true]

theorem Template.find?_identifiers_eq_none_iff {template : Template} :
    template.identifiers.find? (fun field => !field.2.isIdentifierLine) =
        none ↔
      ∀ field ∈ template.identifiers, field.2.IsNameLine := by
  simp only [List.find?_eq_none, Bool.not_eq_true', Bool.not_eq_false,
    Text.isIdentifierLine_iff]

theorem Template.check_eq_ok_iff {template : Template} :
    template.check = .ok () ↔ template.IsSound := by
  rw [check]
  cases found : template.identifiers.find? fun field =>
      !field.2.isIdentifierLine with
  | some field =>
      constructor
      · intro passed
        cases passed
      · intro sound
        rw [find?_identifiers_eq_none_iff.mpr sound.names] at found
        cases found
  | none =>
      have names := find?_identifiers_eq_none_iff.mp found
      simp only [refuse_bind_eq_ok_iff, refuse_eq_ok_iff, not_or,
        Bool.not_eq_true, List.contains_eq_mem, decide_eq_false_iff_not]
      constructor
      · rintro ⟨pragma, ⟨license, licenseLine⟩, importPath, importText⟩
        exact ⟨names, pragma, license, licenseLine, importPath, importText⟩
      · rintro ⟨-, pragma, license, licenseLine, importPath, importText⟩
        exact ⟨pragma, ⟨license, licenseLine⟩, importPath, importText⟩

theorem LogOptions.check_eq_ok_iff {options : LogOptions} :
    options.check = .ok () ↔ options.level ∈ configurableLevels := by
  simp only [check, refuse_eq_ok_iff, Bool.not_eq_true', Bool.not_eq_false,
    List.contains_iff_mem]

/-- A configuration passes its check just if it is sound. -/
theorem Configuration.check_eq_ok_iff {configuration : Configuration} :
    configuration.check = .ok () ↔ configuration.IsSound := by
  simp only [check, check_bind_eq_ok_iff, checkPaths_eq_ok_iff,
    Template.check_eq_ok_iff, LogOptions.check_eq_ok_iff]
  constructor
  · rintro ⟨⟨input, output, paths⟩, template, level⟩
    exact ⟨input, output, paths, template, level⟩
  · rintro ⟨input, output, paths, template, level⟩
    exact ⟨⟨input, output, paths⟩, template, level⟩

end VestingContract
