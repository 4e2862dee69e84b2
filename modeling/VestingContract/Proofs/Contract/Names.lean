import VestingContract.Proofs.Contract.Layout
import VestingContract.Proofs.Run.Configuring

/-!
# Names in contracts

What passes for a name in a configuration is an identifier, on demand with a
line feed behind it.  The line feed reaches the contract, so that a line or a
statement stays on one line just if the names in it are identifiers.
-/

namespace VestingContract

namespace Template

section Lines

variable (template : Template)

/-- The line that names the contract. -/
def contractLine : Text :=
  "contract " ++ template.contractName ++ " \x7b"

theorem contractLine_mem : template.contractLine ∈ template.headerLines := by
  simp [headerLines, contractLine]

/-- The names that a push statement is made of are identifiers. -/
structure NamesPushes : Prop where
  array : template.arrayName.IsIdentifier
  library : template.libraryName.IsIdentifier
  struct : template.structName.IsIdentifier

/-- Each name is an identifier if it holds no line feed, and has at most one
line feed, behind an identifier.  What is written with names stays on one line
just if these are identifiers. -/
structure SpreadsNames : Prop where
  names : ∀ field ∈ template.identifiers, field.2.IsNameLine
  identifiers : ∀ field ∈ template.identifiers,
    field.2.IsIdentifier ↔ Text.lineFeed ∉ field.2
  header : template.contractLine ∈ template.headerLines
  contractLine : Text.lineFeed ∉ template.contractLine ↔
    template.contractName.IsIdentifier
  vestingType : Text.lineFeed ∉ template.vestingType ↔
    template.libraryName.IsIdentifier ∧ template.structName.IsIdentifier
  declarationLine : ∀ size, Text.lineFeed ∉ template.declarationLine size ↔
    template.NamesPushes
  pushStatement : ∀ entry arguments, entry.arguments = .ok arguments →
    ∃ statement, template.pushStatement entry = .ok statement ∧
      (Text.lineFeed ∉ statement ↔ template.NamesPushes ∧
        ∀ argument ∈ arguments, Text.lineFeed ∉ argument)

variable {template}

theorem lineFeed_not_mem_contractLine_iff :
    Text.lineFeed ∉ template.contractLine ↔
      Text.lineFeed ∉ template.contractName := by
  have around : Text.lineFeed ∉ ("contract " : Text) ∧
      Text.lineFeed ∉ (" \x7b" : Text) := by decide
  simp only [contractLine, List.mem_append, not_or, around,
    not_false_eq_true, true_and, and_true]

theorem lineFeed_not_mem_vestingType_iff :
    Text.lineFeed ∉ template.vestingType ↔
      Text.lineFeed ∉ template.libraryName ∧
        Text.lineFeed ∉ template.structName := by
  have between : Text.lineFeed ∉ ("." : Text) := by decide
  simp only [vestingType, List.mem_append, not_or, between, and_true,
    not_false_eq_true]

theorem lineFeed_not_mem_declarationLine_iff {size : Nat} :
    Text.lineFeed ∉ template.declarationLine size ↔
      Text.lineFeed ∉ template.vestingType ∧
        Text.lineFeed ∉ template.arrayName := by
  have around : Text.lineFeed ∉ ("   " : Text) ∧
      Text.lineFeed ∉ ("[] public " : Text) ∧
      Text.lineFeed ∉ (" = new " : Text) ∧ Text.lineFeed ∉ ("[](" : Text) ∧
      Text.lineFeed ∉ (");" : Text) := by decide
  simp only [declarationLine, List.mem_append, not_or, around,
    Text.lineFeed_not_mem_ofNat, true_and, and_true, not_false_eq_true]
  tauto

theorem pushStatement_of_arguments {entry : Entry} {arguments : List Text}
    (spelled : entry.arguments = .ok arguments) :
    template.pushStatement entry =
      .ok (template.arrayName ++ ".push(" ++ template.vestingType ++ "(" ++
        Text.join ", " arguments ++ "));") := by
  rw [pushStatement, spelled]
  rfl

theorem lineFeed_not_mem_statement_iff {arguments : List Text} :
    Text.lineFeed ∉ template.arrayName ++ ".push(" ++ template.vestingType ++
        "(" ++ Text.join ", " arguments ++ "));" ↔
      (Text.lineFeed ∉ template.vestingType ∧
        Text.lineFeed ∉ template.arrayName) ∧
        ∀ argument ∈ arguments, Text.lineFeed ∉ argument := by
  have around : Text.lineFeed ∉ (".push(" : Text) ∧
      Text.lineFeed ∉ ("(" : Text) ∧ Text.lineFeed ∉ ("));" : Text) := by
    decide
  have joined : Text.lineFeed ∉ Text.join ", " arguments ↔
      ∀ argument ∈ arguments, Text.lineFeed ∉ argument :=
    Text.not_mem_join_iff (by decide)
  simp only [List.mem_append, not_or, around, joined, not_false_eq_true]
  tauto

/-- The names of a sound template are spread over a contract. -/
theorem IsSound.spreadsNames (sound : template.IsSound) :
    template.SpreadsNames := by
  have identifiers : ∀ field ∈ template.identifiers,
      field.2.IsIdentifier ↔ Text.lineFeed ∉ field.2 := fun field member =>
    (sound.names field member).isIdentifier_iff
  have each := identifiers
  simp only [Template.identifiers, List.forall_mem_cons] at each
  obtain ⟨contract, library, struct, array, -⟩ := each
  have vestingType : Text.lineFeed ∉ template.vestingType ↔
      template.libraryName.IsIdentifier ∧
        template.structName.IsIdentifier := by
    rw [lineFeed_not_mem_vestingType_iff, library, struct]
  have pushes : Text.lineFeed ∉ template.vestingType ∧
      Text.lineFeed ∉ template.arrayName ↔ template.NamesPushes := by
    rw [vestingType, ← array]
    exact ⟨fun ⟨⟨library, struct⟩, array⟩ => ⟨array, library, struct⟩,
      fun ⟨array, library, struct⟩ => ⟨⟨library, struct⟩, array⟩⟩
  exact {
    names := sound.names
    identifiers := identifiers
    header := template.contractLine_mem
    contractLine := lineFeed_not_mem_contractLine_iff.trans contract.symm
    vestingType := vestingType
    declarationLine := fun _ =>
      lineFeed_not_mem_declarationLine_iff.trans pushes
    pushStatement := fun _ _ spelled =>
      ⟨_, pushStatement_of_arguments spelled,
        lineFeed_not_mem_statement_iff.trans (and_congr_left' pushes)⟩ }

end Lines

end Template

namespace Configuration

/-- However a configuration is written, each of its names is an identifier,
on demand with a line feed behind it, and the lines and statements that are
built from names stay on one line just if these are identifiers. -/
theorem load_spreadsNames {given : Option PathName} {world after : World}
    {configuration : Configuration}
    (loads : (Configuration.load given).run world =
      (.ok configuration, after)) :
    configuration.template.SpreadsNames :=
  (isSound_of_load loads).template.spreadsNames

section BlockScalar

/-- A document with the name of the contract in a block of lines. -/
def blockDocument : List UInt8 := Utf8.encodeChars
  ("paths: \x7binput: a, output: b\x7d\n".toList ++
    "template:\n  contract_name: |\n    Foo\n".toList)

/-- The configuration of the document. -/
def blockConfiguration : Configuration where
  input := ⟨0, ["a"]⟩
  output := ⟨0, ["b"]⟩
  template := { Template.standard with contractName := "Foo\n" }
  logging := .standard

theorem load_blockDocument : ∃ after,
    (Configuration.load (some Dataset.singlePath)).run
        (Dataset.singleFile blockDocument) =
      (.ok blockConfiguration, after) := by
  have ends : ((Configuration.load (some Dataset.singlePath)).run
      (Dataset.singleFile blockDocument)).1 = .ok blockConfiguration := by
    decide +kernel
  exact ⟨_, Prod.ext ends rfl⟩

/-- The line that names the contract of the document is two lines. -/
theorem load_spreads_blockDocument : ∃ after,
    (Configuration.load (some Dataset.singlePath)).run
        (Dataset.singleFile blockDocument) =
      (.ok blockConfiguration, after) ∧
    Text.lineFeed ∈ blockConfiguration.template.contractLine ∧
    ¬ blockConfiguration.template.contractName.IsIdentifier := by
  obtain ⟨after, loads⟩ := load_blockDocument
  have spread := load_spreadsNames loads
  have broken :
      Text.lineFeed ∈ blockConfiguration.template.contractLine := by
    decide
  exact ⟨after, loads, broken, fun isName =>
    spread.contractLine.mpr isName broken⟩

/-- Not every name of a configuration is an identifier. -/
theorem load_accepts_other_names :
    ¬ ∀ (given : Option PathName) (world after : World)
      (configuration : Configuration),
      (Configuration.load given).run world = (.ok configuration, after) →
      ∀ field ∈ configuration.template.identifiers,
        field.2.IsIdentifier := by
  intro claim
  obtain ⟨after, loads⟩ := load_blockDocument
  have isName := claim _ _ after _ loads _ List.mem_cons_self
  exact isName.lineFeed_not_mem (by decide)

end BlockScalar

end Configuration

end VestingContract
