import VestingContract.Config.Read
import VestingContract.Proofs.Config.Rules

/-!
# What a value says about a configuration

A decoded value gives a configuration if it is a mapping with both paths as
texts, if its sections are mappings or count as left out, and if every setting
in them has a text.  This says which configuration it is, and a value is
accepted just if it gives one that is sound.
-/

namespace VestingContract

section Settings

/-- The text of a setting: that of the value under its key, or the standard
one if the key is missing. -/
inductive IsSetting (room : Nat) (pairs : List (Value × Value))
    (key standard : Text) : Text → Prop where
  | standard (missing : Value.lookup? key pairs = none) :
      IsSetting room pairs key standard standard
  | given {value : Value} {text : Text}
      (found : Value.lookup? key pairs = some value)
      (displayed : value.display room = .ok text) :
      IsSetting room pairs key standard text

/-- The pairs of a section.  What counts as false is a section without
pairs. -/
inductive Value.IsSection : Value → List (Value × Value) → Prop where
  | leftOut {value : Value} (falsy : value.isTruthy = false) :
      IsSection value []
  | given (pairs : List (Value × Value)) : IsSection (.map pairs) pairs

/-- The value under a key; a missing key stands for null. -/
def Value.under (key : Text) (pairs : List (Value × Value)) : Value :=
  (lookup? key pairs).getD .null

/-- The fields of a template are the settings of a section. -/
structure Template.IsGivenBy (room : Nat) (pairs : List (Value × Value))
    (template : Template) : Prop where
  license : IsSetting room pairs "license" standard.license template.license
  pragma : IsSetting room pairs "pragma" standard.pragma template.pragma
  importPath :
    IsSetting room pairs "import_path" standard.importPath
      template.importPath
  contractName :
    IsSetting room pairs "contract_name" standard.contractName
      template.contractName
  libraryName :
    IsSetting room pairs "library_name" standard.libraryName
      template.libraryName
  structName :
    IsSetting room pairs "struct_name" standard.structName
      template.structName
  arrayName :
    IsSetting room pairs "array_name" standard.arrayName template.arrayName

/-- The file of a section is the text of its value, unless this counts as
false. -/
inductive IsLogFile (room : Nat) (value : Value) : Option Text → Prop where
  | leftOut (falsy : value.isTruthy = false) : IsLogFile room value none
  | given {text : Text} (truthy : value.isTruthy = true)
      (displayed : value.display room = .ok text) :
      IsLogFile room value (some text)

/-- The options are the settings of a section, the level in upper case. -/
structure LogOptions.IsGivenBy (room : Nat) (pairs : List (Value × Value))
    (options : LogOptions) : Prop where
  level : ∃ level, IsSetting room pairs "level" standard.level level ∧
    options.level = level.toUpper
  file : IsLogFile room (.under "file" pairs) options.file
  json : options.json = (Value.under "json" pairs).isTruthy

/-- A mapping gives the two paths as texts and the settings of its sections,
whose texts have room for some containers inside each other. -/
structure Configuration.IsGivenBy (room : Nat) (value : Value)
    (configuration : Configuration) : Prop where
  given : ∃ pairs places input output template logging,
    value = .map pairs ∧
    Value.lookup? "paths" pairs = some (.map places) ∧
    Value.lookup? "input" places = some (.text input) ∧
    Value.lookup? "output" places = some (.text output) ∧
    configuration.input = PathName.ofText input ∧
    configuration.output = PathName.ofText output ∧
    (Value.under "template" pairs).IsSection template ∧
    configuration.template.IsGivenBy room template ∧
    (Value.under "logging" pairs).IsSection logging ∧
    configuration.logging.IsGivenBy room logging

end Settings

section Parts

variable {room : Nat} {pairs : List (Value × Value)}
  {key standard text : Text}

theorem settingOr_eq_ok_iff :
    settingOr room pairs key standard = .ok text ↔
      IsSetting room pairs key standard text := by
  rw [settingOr]
  cases found : Value.lookup? key pairs with
  | none =>
      constructor
      · rintro ⟨⟩
        exact .standard found
      · rintro (_ | ⟨other, -⟩)
        · rfl
        · rw [found] at other
          cases other
  | some value =>
      constructor
      · intro displayed
        exact .given found (eq_ok_of_mapError displayed)
      · rintro (missing | ⟨other, displayed⟩)
        · rw [found] at missing
          cases missing
        · rw [found] at other
          cases other
          simp only [Value.toSetting, displayed]
          rfl

theorem isSetting_nil :
    IsSetting room [] key standard text ↔ text = standard := by
  constructor
  · rintro (_ | ⟨found, -⟩)
    · rfl
    · cases found
  · rintro rfl
    exact .standard rfl

theorem sectionOf?_of_falsy {value : Value}
    (falsy : value.isTruthy = false) : sectionOf? value = .ok none := by
  simp only [sectionOf?, falsy, Bool.not_false, if_true]

/-- What a value is as a section, if it is one. -/
theorem sectionOf?_cases (value : Value) :
    (∃ fault, sectionOf? value = .error fault ∧
      ¬ ∃ pairs, value.IsSection pairs) ∨
    sectionOf? value = .ok none ∧ value.IsSection [] ∨
    ∃ pairs, sectionOf? value = .ok (some pairs) ∧
      value.IsSection pairs := by
  by_cases truthy : value.isTruthy
  · cases value with
    | map pairs =>
        cases pairs with
        | nil => cases truthy
        | cons pair pairs => exact .inr (.inr ⟨_, rfl, .given _⟩)
    | _ =>
        refine .inl ⟨_, by simp only [sectionOf?, truthy]; rfl, ?_⟩
        rintro ⟨pairs, ⟨falsy⟩⟩
        rw [truthy] at falsy
        cases falsy
  · have falsy := Bool.eq_false_iff.mpr truthy
    exact .inr (.inl ⟨sectionOf?_of_falsy falsy, .leftOut falsy⟩)

theorem Value.eq_nil_of_falsy {pairs : List (Value × Value)}
    (falsy : (Value.map pairs).isTruthy = false) : pairs = [] := by
  simpa only [isTruthy, Bool.not_eq_false', List.isEmpty_iff] using falsy

theorem Value.IsSection.unique {value : Value}
    {pairs others : List (Value × Value)} (one : value.IsSection pairs)
    (other : value.IsSection others) : pairs = others := by
  cases one with
  | leftOut falsy =>
      cases other with
      | leftOut => rfl
      | given => exact (eq_nil_of_falsy falsy).symm
  | given =>
      cases other with
      | leftOut falsy => exact eq_nil_of_falsy falsy
      | given => rfl

/-- What is read from a section holds of its pairs, or of none if it is left
out. -/
theorem sectionOf?_bind_eq_ok_iff {α : Type} {value : Value} {found : α}
    {next : Option (List (Value × Value)) → Except ReadingError α}
    {Holds : List (Value × Value) → Prop}
    (absent : next none = .ok found ↔ Holds [])
    (present : ∀ pairs, next (some pairs) = .ok found ↔ Holds pairs) :
    sectionOf? value >>= next = .ok found ↔
      ∃ pairs, value.IsSection pairs ∧ Holds pairs := by
  rcases sectionOf?_cases value with
    ⟨fault, seen, unread⟩ | ⟨seen, leftOut⟩ | ⟨pairs, seen, given⟩
  all_goals rw [seen]
  · constructor
    · rintro ⟨⟩
    · rintro ⟨pairs, given, -⟩
      exact absurd ⟨pairs, given⟩ unread
  · refine Iff.trans absent ⟨fun holds => ⟨[], leftOut, holds⟩, ?_⟩
    rintro ⟨pairs, given, holds⟩
    exact given.unique leftOut ▸ holds
  · refine Iff.trans (present pairs) ⟨fun holds => ⟨pairs, given, holds⟩, ?_⟩
    rintro ⟨others, other, holds⟩
    exact other.unique given ▸ holds

theorem Template.isGivenBy_nil {template : Template} :
    template.IsGivenBy room [] ↔ template = .standard := by
  constructor
  · rintro ⟨license, pragma, importPath, contractName, libraryName,
      structName, arrayName⟩
    rw [isSetting_nil] at license pragma importPath contractName
    rw [isSetting_nil] at libraryName structName arrayName
    cases template
    simp_all only [standard]
  · rintro rfl
    constructor <;> exact .standard rfl

theorem LogOptions.toUpper_standard :
    LogOptions.standard.level.toUpper = LogOptions.standard.level := by
  decide +kernel

theorem LogOptions.isGivenBy_nil {options : LogOptions} :
    options.IsGivenBy room [] ↔ options = .standard := by
  constructor
  · rintro ⟨⟨level, given, upper⟩, file, json⟩
    rw [isSetting_nil.mp given, toUpper_standard] at upper
    obtain ⟨_, file', _⟩ := options
    cases file with
    | leftOut => cases upper; cases json; rfl
    | given truthy => cases truthy
  · rintro rfl
    exact ⟨⟨_, .standard rfl, toUpper_standard.symm⟩, .leftOut rfl, rfl⟩

theorem pure_eq_ok_iff {α : Type} {value other : α} :
    (pure value : Except ReadingError α) = .ok other ↔ other = value :=
  ⟨fun | rfl => rfl, fun | rfl => rfl⟩

/-- A section has a template just if it is left out or a mapping in which
every setting has a text. -/
theorem Template.ofSection_eq_ok_iff {value : Value} {template : Template} :
    ofSection room value = .ok template ↔
      ∃ pairs, value.IsSection pairs ∧ template.IsGivenBy room pairs := by
  apply sectionOf?_bind_eq_ok_iff
  · rw [isGivenBy_nil]
    exact pure_eq_ok_iff
  · intro pairs
    simp only [bind_eq_ok_iff, settingOr_eq_ok_iff]
    constructor
    · rintro ⟨_, license, _, pragma, _, importPath, _, contractName, _,
        libraryName, _, structName, _, arrayName, ⟨⟩⟩
      exact ⟨license, pragma, importPath, contractName, libraryName,
        structName, arrayName⟩
    · intro holds
      exact ⟨_, holds.license, _, holds.pragma, _, holds.importPath, _,
        holds.contractName, _, holds.libraryName, _, holds.structName, _,
        holds.arrayName, rfl⟩

/-- What is read after the file of a section. -/
theorem isLogFile_bind_iff {α : Type} {value : Value} {found : α}
    {next : Option Text → Except ReadingError α} :
    (if value.isTruthy then some <$> value.toSetting room >>= next
      else pure none >>= next) = .ok found ↔
        ∃ file, IsLogFile room value file ∧ next file = .ok found := by
  by_cases truthy : value.isTruthy
  · rw [if_pos truthy]
    constructor
    · intro holds
      obtain ⟨_, read, later⟩ := exists_of_bind_eq_ok holds
      cases displayed : value.toSetting room with
      | error fault =>
          rw [displayed] at read
          cases read
      | ok text =>
          rw [displayed] at read
          cases read
          exact ⟨_, .given truthy (eq_ok_of_mapError displayed), later⟩
    · rintro ⟨_, falsy | ⟨-, displayed⟩, later⟩
      · exact absurd truthy (Bool.eq_false_iff.mp falsy)
      · rw [Value.toSetting, displayed]
        exact later
  · rw [if_neg truthy]
    constructor
    · intro later
      exact ⟨none, .leftOut (Bool.eq_false_iff.mpr truthy), later⟩
    · rintro ⟨_, _ | ⟨other, -⟩, later⟩
      · exact later
      · exact absurd other truthy

/-- A section has options just if it is left out or a mapping in which the
level and the file have texts. -/
theorem LogOptions.ofSection_eq_ok_iff {value : Value}
    {options : LogOptions} :
    ofSection room value = .ok options ↔
      ∃ pairs, value.IsSection pairs ∧ options.IsGivenBy room pairs := by
  apply sectionOf?_bind_eq_ok_iff
  · rw [isGivenBy_nil]
    exact pure_eq_ok_iff
  · intro pairs
    simp only [bind_eq_ok_iff, settingOr_eq_ok_iff]
    constructor
    · rintro ⟨level, given, later⟩
      obtain ⟨file, isFile, ⟨⟩⟩ := isLogFile_bind_iff.mp later
      exact ⟨⟨level, given, rfl⟩, isFile, rfl⟩
    · obtain ⟨upper, file, json⟩ := options
      rintro ⟨⟨level, given, rfl⟩, isFile, rfl⟩
      exact ⟨level, given, isLogFile_bind_iff.mpr ⟨file, isFile, rfl⟩⟩

theorem Value.member_eq_ok_iff {value found : Value} :
    value.member key = .ok found ↔
      ∃ pairs, value = .map pairs ∧ lookup? key pairs = some found := by
  constructor
  · intro holds
    cases value with
    | map pairs =>
        rw [member] at holds
        cases seen : lookup? key pairs with
        | none => rw [seen] at holds; cases holds
        | some other =>
            rw [seen] at holds
            cases holds
            exact ⟨pairs, rfl, seen⟩
    | _ => cases holds
  · rintro ⟨pairs, rfl, seen⟩
    simp only [member, seen]

theorem Value.toPath_eq_ok_iff {value : Value} {path : PathName} :
    value.toPath = .ok path ↔
      ∃ content, value = .text content ∧ path = PathName.ofText content := by
  constructor
  · intro holds
    cases value with
    | text content =>
        cases holds
        exact ⟨content, rfl, rfl⟩
    | _ => cases holds
  · rintro ⟨content, rfl, rfl⟩
    rfl

end Parts

namespace Configuration

variable {room : Nat} {configuration : Configuration}

theorem ofPairs_eq_ok_iff {pairs : List (Value × Value)} :
    ofPairs room pairs = .ok configuration ↔
      configuration.IsGivenBy room (.map pairs) := by
  simp only [ofPairs, bind_eq_ok_iff, Value.member_eq_ok_iff,
    Value.toPath_eq_ok_iff, Template.ofSection_eq_ok_iff,
    LogOptions.ofSection_eq_ok_iff]
  constructor
  · rintro ⟨_, ⟨_, ⟨⟩, paths⟩, _, ⟨places, rfl, input⟩, _,
      ⟨inputText, rfl, rfl⟩, _, ⟨_, ⟨⟩, output⟩, _, ⟨outputText, rfl, rfl⟩,
      template, ⟨_, templatePairs, templateGiven⟩, logging,
      ⟨_, loggingPairs, loggingGiven⟩, ⟨⟩⟩
    exact ⟨pairs, places, inputText, outputText, _, _, rfl, paths, input,
      output, rfl, rfl, templatePairs, templateGiven, loggingPairs,
      loggingGiven⟩
  · rintro ⟨_, places, input, output, template, logging, ⟨⟩, paths,
      inputFound, outputFound, inputPath, outputPath, isTemplate,
      templateGiven, isLogging, loggingGiven⟩
    exact ⟨_, ⟨_, rfl, paths⟩, _, ⟨_, rfl, inputFound⟩, _,
      ⟨_, rfl, inputPath⟩, _, ⟨_, rfl, outputFound⟩, _,
      ⟨_, rfl, outputPath⟩, _, ⟨_, isTemplate, templateGiven⟩, _,
      ⟨_, isLogging, loggingGiven⟩, rfl⟩

/-- A value is accepted just if it gives a configuration that is sound. -/
theorem ofValue_eq_ok_iff {path : PathName} {value : Value} :
    ofValue room path value = .ok configuration ↔
      configuration.IsGivenBy room value ∧ configuration.IsSound := by
  cases value with
  | map pairs =>
      simp only [ofValue, mapError_eq_ok_iff, bind_eq_ok_iff,
        ofPairs_eq_ok_iff]
      constructor
      · rintro ⟨_, given, ⟨⟩, passed, ⟨⟩⟩
        exact ⟨given, check_eq_ok_iff.mp passed⟩
      · rintro ⟨given, sound⟩
        exact ⟨_, given, ⟨⟩, check_eq_ok_iff.mpr sound, rfl⟩
  | _ =>
      constructor
      · rintro ⟨⟩
      · rintro ⟨⟨_, _, _, _, _, _, ⟨⟩, -⟩, -⟩

end Configuration

end VestingContract
