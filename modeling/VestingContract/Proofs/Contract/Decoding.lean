import VestingContract.Config.Check
import VestingContract.Proofs.Contract.Layout

/-!
# Reading contracts back

A reader of contracts sees nothing but the text.  It recovers the names of the
template, the declared size and the arguments of every push statement under
their categories, provided that no part that was filled in breaks its line or
looks like the comma between two arguments.  A contract therefore determines
what it was rendered from.
-/

namespace VestingContract

namespace Text

/-- A letter, an underscore or a dollar sign, and then any number of letters,
digits, underscores and dollar signs. -/
def isIdentifier : Text → Bool
  | [] => false
  | first :: rest =>
      first.startsIdentifier && rest.all CodePoint.continuesIdentifier

end Text

/-- What can be filled into the lines of a contract without breaking them. -/
structure Template.IsLegible (template : Template) : Prop where
  license : Text.lineFeed ∉ template.license
  pragma : Text.lineFeed ∉ template.pragma
  importPath : Text.lineFeed ∉ template.importPath
  contractName : template.contractName.isIdentifier
  libraryName : template.libraryName.isIdentifier
  structName : template.structName.isIdentifier
  arrayName : template.arrayName.isIdentifier

/-- What the line of an array declares. -/
structure Declaration where
  libraryName : Text
  structName : Text
  arrayName : Text
  size : Nat
  deriving DecidableEq, Repr

/-- All that a contract tells about what it was rendered from. -/
structure ContractReading where
  template : Template
  size : Nat
  categories : SpelledDataset
  deriving DecidableEq, Repr

/-- Five arguments with a comma and a space between neighbours. -/
def PushArguments.ofText? (text : Text) : Option PushArguments := do
  let (address, text) ← Text.cut? ", " text
  let (amountAtEnd, text) ← Text.cut? ", " text
  let (amountAtStart, text) ← Text.cut? ", " text
  let (startDate, endDate) ← Text.cut? ", " text
  return ⟨address, amountAtEnd, amountAtStart, startDate, endDate⟩

/-- The declaration on a line. -/
def Declaration.ofLine? (line : Text) : Option Declaration := do
  let text ← Text.between? "   " ");" line
  let (libraryName, text) ← Text.cut? "." text
  let (structName, text) ← Text.cut? "[] public " text
  let (arrayName, text) ← Text.cut? " = new " text
  let (_, digits) ← Text.cut? "[](" text
  let size ← Text.toNat? digits
  return ⟨libraryName, structName, arrayName, size⟩

namespace ContractReading

/-- The push statements that come next in the body of a constructor, and the
categories behind them.  The line that names a category takes the statements
that come next as its own. -/
def readBody? (template : Template) :
    List Text → Option (List PushArguments × SpelledDataset)
  | [] => none
  | line :: lines =>
      if line = "    \x7d" then
        some ([], [])
      else
        match readBody? template lines with
        | none => none
        | some (pushes, categories) =>
            if line = "   " then
              some ([], categories)
            else
              match Text.between? "        // " " allocations" line with
              | some category => some ([], (category, pushes) :: categories)
              | none => do
                  let arguments ← PushArguments.ofText?
                    (← Text.between? template.pushOpening "));" line)
                  return (arguments :: pushes, categories)

/-- Read the lines of a contract. -/
def ofLines? : List Text → Option ContractReading
  | license :: pragma :: _ :: path :: _ :: contract :: _ :: _ ::
      declaration :: _ :: _ :: body => do
      let declaration ← Declaration.ofLine? declaration
      let template : Template :=
        { license := ← Text.between? "// SPDX-License-Identifier: " [] license
          pragma := ← Text.between? "pragma solidity " ";" pragma
          importPath := ← Text.between? "import \"" "\";" path
          contractName := ← Text.between? "contract " " \x7b" contract
          libraryName := declaration.libraryName
          structName := declaration.structName
          arrayName := declaration.arrayName }
      let (_, categories) ← readBody? template body
      return ⟨template, declaration.size, categories⟩
  | _ => none

/-- Read the text of a contract. -/
def ofText? (text : Text) : Option ContractReading :=
  ofLines? (Text.splitOn Text.lineFeed text)

end ContractReading

section Identifiers

variable {text : Text}

theorem Text.continues_of_isIdentifier (identifier : text.isIdentifier) :
    ∀ codePoint ∈ text, codePoint.continuesIdentifier := by
  cases text with
  | nil => simp [Text.isIdentifier] at identifier
  | cons first rest =>
      simp only [Text.isIdentifier, Bool.and_eq_true, List.all_eq_true]
        at identifier
      intro codePoint member
      rcases List.mem_cons.mp member with rfl | member
      · cases codePoint with
        | surrogate offset => simp [CodePoint.startsIdentifier] at identifier
        | scalar char =>
            have starts := identifier.1
            simp only [CodePoint.startsIdentifier, Bool.or_eq_true] at starts
            simp only [CodePoint.continuesIdentifier, Char.isAlphanum,
              Bool.or_eq_true]
            tauto
      · exact identifier.2 codePoint member

theorem Text.not_mem_of_isIdentifier (identifier : text.isIdentifier)
    {codePoint : CodePoint} (other : codePoint.continuesIdentifier = false) :
    codePoint ∉ text := by
  intro member
  have continues := Text.continues_of_isIdentifier identifier codePoint member
  rw [other] at continues
  exact Bool.false_ne_true continues

/-- An identifier does not begin like a comment. -/
theorem Text.begins_of_isIdentifier (identifier : text.isIdentifier) :
    ∃ first rest, text = first :: rest ∧ first ≠ .scalar '/' := by
  cases text with
  | nil => simp [Text.isIdentifier] at identifier
  | cons first rest =>
      refine ⟨first, rest, rfl, ?_⟩
      rintro rfl
      simp [Text.isIdentifier, CodePoint.startsIdentifier] at identifier

end Identifiers

theorem PushArguments.ofText?_join {arguments : PushArguments}
    (free : ∀ token ∈ arguments.toList, ¬ (", " : Text) <:+: token) :
    PushArguments.ofText? (Text.join ", " arguments.toList) =
      some arguments := by
  obtain ⟨address, amountAtEnd, amountAtStart, startDate, endDate⟩ :=
    arguments
  have cut {part : Text} (free : ¬ (", " : Text) <:+: part) (rest : Text) :
      Text.cut? ", " (part ++ (", " ++ rest)) = some (part, rest) := by
    rw [← List.append_assoc]
    exact Text.cut?_append_of_not_infix (by decide) free rest
  simp only [PushArguments.toList, List.forall_mem_cons] at free
  obtain ⟨addressFree, endFree, startFree, startDateFree, -⟩ := free
  have joined : Text.join ", " (PushArguments.toList
      ⟨address, amountAtEnd, amountAtStart, startDate, endDate⟩) =
      address ++ (", " ++ (amountAtEnd ++ (", " ++ (amountAtStart ++
        (", " ++ (startDate ++ (", " ++ endDate))))))) := by
    simp [Text.join, PushArguments.toList, List.intercalate]
  rw [joined, PushArguments.ofText?]
  simp only [cut addressFree, cut endFree, cut startFree, cut startDateFree,
    Option.bind_eq_bind, Option.bind_some, Option.pure_def]

theorem Declaration.ofLine?_declarationLine {template : Template}
    (legible : template.IsLegible) (size : Nat) :
    Declaration.ofLine? (template.declarationLine size) =
      some ⟨template.libraryName, template.structName, template.arrayName,
        size⟩ := by
  have pointFree : CodePoint.scalar '.' ∉ template.libraryName :=
    Text.not_mem_of_isIdentifier legible.libraryName (by decide)
  have structFree : CodePoint.scalar '[' ∉ template.structName :=
    Text.not_mem_of_isIdentifier legible.structName (by decide)
  have arrayFree : CodePoint.scalar ' ' ∉ template.arrayName :=
    Text.not_mem_of_isIdentifier legible.arrayName (by decide)
  have typeFree : CodePoint.scalar '[' ∉ template.vestingType := by
    have libraryFree : CodePoint.scalar '[' ∉ template.libraryName :=
      Text.not_mem_of_isIdentifier legible.libraryName (by decide)
    simp [Template.vestingType, libraryFree, structFree]
    decide
  have line : template.declarationLine size = "   " ++
      (template.libraryName ++ "." ++ (template.structName ++ "[] public " ++
        (template.arrayName ++ " = new " ++ (template.vestingType ++ "[](" ++
          Text.ofNat size)))) ++ ");" := by
    simp [Template.declarationLine, Template.vestingType]
  rw [line, Declaration.ofLine?]
  simp only [Text.between?_append, Option.bind_eq_bind, Option.bind_some,
    Text.cut?_append_of_not_mem "." rfl pointFree,
    Text.cut?_append_of_not_mem "[] public " rfl structFree,
    Text.cut?_append_of_not_mem " = new " rfl arrayFree,
    Text.cut?_append_of_not_mem "[](" rfl typeFree, Text.toNat?_ofNat,
    Option.pure_def]

namespace ContractReading

variable {template : Template}

theorem argumentsLine_ne (arrayName : template.arrayName.isIdentifier)
    (arguments : PushArguments) :
    template.argumentsLine arguments ≠ "    \x7d" ∧
      template.argumentsLine arguments ≠ "   " ∧
      Text.between? "        // " " allocations"
        (template.argumentsLine arguments) = none := by
  obtain ⟨first, rest, nameEq, notSlash⟩ :=
    Text.begins_of_isIdentifier arrayName
  have begins : ∃ rest, template.argumentsLine arguments =
      "        " ++ first :: rest := by
    simp [Template.argumentsLine, Template.pushOpening, nameEq]
  obtain ⟨rest, lineEq⟩ := begins
  rw [lineEq]
  refine ⟨by simp [Text.ofString, Text.ofChars],
    by simp [Text.ofString, Text.ofChars], Text.between?_eq_none _ ?_⟩
  simp [Text.ofString, Text.ofChars, notSlash.symm]

theorem readBody?_argumentsLines
    (arrayName : template.arrayName.isIdentifier)
    {pushes : List PushArguments} {lines : List Text}
    {categories : SpelledDataset}
    (free : ∀ arguments ∈ pushes, ∀ token ∈ arguments.toList,
      ¬ (", " : Text) <:+: token)
    (later : ∃ before, readBody? template lines = some (before, categories)) :
    readBody? template
        (pushes.map template.argumentsLine ++ ("   " : Text) :: lines) =
      some (pushes, categories) := by
  induction pushes with
  | nil =>
      obtain ⟨before, later⟩ := later
      simp [readBody?, later, Text.ofString, Text.ofChars]
  | cons arguments pushes ih =>
      obtain ⟨notFooter, notSeparator, notComment⟩ :=
        argumentsLine_ne arrayName arguments
      have rest := ih fun other member =>
        free other (List.mem_cons_of_mem arguments member)
      have content : Text.between? template.pushOpening "));"
          (template.argumentsLine arguments) =
            some (Text.join ", " arguments.toList) :=
        Text.between?_append _ _ _
      simp only [List.map_cons, List.cons_append, readBody?,
        if_neg notFooter, rest, if_neg notSeparator, notComment, content,
        PushArguments.ofText?_join (free arguments (by simp)),
        Option.bind_eq_bind, Option.bind_some, Option.pure_def]

/-- The categories of the body of a constructor are read in order. -/
theorem readBody?_categoryLines (arrayName : template.arrayName.isIdentifier)
    {categories : SpelledDataset}
    (free : ∀ category ∈ categories, ∀ arguments ∈ category.2,
      ∀ token ∈ arguments.toList, ¬ (", " : Text) <:+: token) :
    readBody? template
        (categories.flatMap template.categoryLines ++
          (Template.footerLines ++ [[]])) =
      some ([], categories) := by
  induction categories with
  | nil => simp [readBody?, Template.footerLines]
  | cons category categories ih =>
      have later := ih fun other member =>
        free other (List.mem_cons_of_mem category member)
      have pushes := readBody?_argumentsLines arrayName
        (free category (by simp)) ⟨[], later⟩
      have comment : Text.between? "        // " " allocations"
          (Template.commentLine category.1) = some category.1 :=
        Text.between?_append _ _ _
      have notFooter : Template.commentLine category.1 ≠ "    \x7d" := by
        simp [Template.commentLine, Text.ofString, Text.ofChars]
      have notSeparator : Template.commentLine category.1 ≠ "   " := by
        simp [Template.commentLine, Text.ofString, Text.ofChars]
      simp only [List.flatMap_cons, Template.categoryLines, List.cons_append,
        List.append_assoc, List.nil_append] at pushes ⊢
      simp only [readBody?, if_neg notFooter, if_neg notSeparator, comment,
        pushes]

theorem ofLines?_contractLines (legible : template.IsLegible)
    {categories : SpelledDataset}
    (free : ∀ category ∈ categories, ∀ arguments ∈ category.2,
      ∀ token ∈ arguments.toList, ¬ (", " : Text) <:+: token) :
    ofLines? (template.contractLines categories ++ [[]]) =
      some ⟨template, categories.size, categories⟩ := by
  have body := readBody?_categoryLines legible.arrayName free
  have license : Text.between? "// SPDX-License-Identifier: " []
      ("// SPDX-License-Identifier: " ++ template.license) =
        some template.license := by
    simpa using Text.between?_append "// SPDX-License-Identifier: "
      template.license []
  simp only [Template.contractLines, Template.headerLines, List.cons_append,
    List.nil_append, List.append_assoc, ofLines?,
    Declaration.ofLine?_declarationLine legible, license,
    Option.bind_eq_bind, Option.bind_some, Option.pure_def]
  simp only [← List.append_assoc, Text.between?_append, Option.bind_some]
  simp only [List.append_assoc, body, Option.bind_some]

end ContractReading

section LineFeeds

variable {template : Template}

/-- The line of an entry ends where its tokens do not break it. -/
theorem Template.lineFeed_not_mem_argumentsLine (legible : template.IsLegible)
    {arguments : PushArguments}
    (free : ∀ token ∈ arguments.toList, Text.lineFeed ∉ token) :
    Text.lineFeed ∉ template.argumentsLine arguments := by
  have arrayFree : Text.lineFeed ∉ template.arrayName :=
    Text.not_mem_of_isIdentifier legible.arrayName (by decide)
  have libraryFree : Text.lineFeed ∉ template.libraryName :=
    Text.not_mem_of_isIdentifier legible.libraryName (by decide)
  have structFree : Text.lineFeed ∉ template.structName :=
    Text.not_mem_of_isIdentifier legible.structName (by decide)
  have joinFree : Text.lineFeed ∉ Text.join ", " arguments.toList :=
    Text.not_mem_join (by decide) free
  simp only [argumentsLine, pushOpening, vestingType, List.mem_append, not_or]
  refine ⟨⟨⟨⟨⟨⟨?_, arrayFree⟩, ?_⟩, ⟨libraryFree, ?_⟩, structFree⟩, ?_⟩,
    joinFree⟩, ?_⟩ <;> decide

theorem Template.lineFeed_not_mem_headerLines
    (legible : template.IsLegible) :
    ∀ line ∈ template.headerLines, Text.lineFeed ∉ line := by
  have contractFree : Text.lineFeed ∉ template.contractName :=
    Text.not_mem_of_isIdentifier legible.contractName (by decide)
  simp only [headerLines, List.forall_mem_cons, List.mem_append, not_or]
  refine ⟨⟨?_, legible.license⟩, ⟨⟨?_, legible.pragma⟩, ?_⟩, ?_,
    ⟨⟨?_, legible.importPath⟩, ?_⟩, ?_, ⟨⟨?_, contractFree⟩, ?_⟩, ?_, ?_, ?_⟩
    <;> decide

theorem Template.lineFeed_not_mem_declarationLine
    (legible : template.IsLegible) (size : Nat) :
    Text.lineFeed ∉ template.declarationLine size := by
  have arrayFree : Text.lineFeed ∉ template.arrayName :=
    Text.not_mem_of_isIdentifier legible.arrayName (by decide)
  have libraryFree : Text.lineFeed ∉ template.libraryName :=
    Text.not_mem_of_isIdentifier legible.libraryName (by decide)
  have structFree : Text.lineFeed ∉ template.structName :=
    Text.not_mem_of_isIdentifier legible.structName (by decide)
  simp only [declarationLine, vestingType, List.mem_append, not_or]
  refine ⟨⟨⟨⟨⟨⟨⟨⟨?_, ⟨libraryFree, ?_⟩, structFree⟩, ?_⟩, arrayFree⟩, ?_⟩,
    ⟨libraryFree, ?_⟩, structFree⟩, ?_⟩,
    Text.lineFeed_not_mem_ofNat size⟩, ?_⟩ <;> decide

/-- No line of a contract is broken. -/
theorem Template.lineFeed_not_mem_contractLines
    (legible : template.IsLegible) {categories : SpelledDataset}
    (names : ∀ category ∈ categories, Text.lineFeed ∉ category.1)
    (tokens : ∀ category ∈ categories, ∀ arguments ∈ category.2,
      ∀ token ∈ arguments.toList, Text.lineFeed ∉ token) :
    ∀ line ∈ template.contractLines categories, Text.lineFeed ∉ line := by
  have categoryFree : ∀ category ∈ categories,
      ∀ line ∈ template.categoryLines category, Text.lineFeed ∉ line := by
    intro category member line lineMember
    simp only [categoryLines, List.mem_cons, List.mem_append, List.mem_map,
      List.not_mem_nil, or_false] at lineMember
    rcases lineMember with rfl | ⟨arguments, inside, rfl⟩ | rfl
    · simp only [commentLine, List.mem_append, not_or]
      exact ⟨⟨by decide, names category member⟩, by decide⟩
    · exact lineFeed_not_mem_argumentsLine legible
        (tokens category member arguments inside)
    · decide
  intro line member
  simp only [contractLines, List.mem_append, List.mem_cons, List.not_mem_nil,
    or_false, List.mem_flatMap] at member
  rcases member with ((member | rfl | rfl | rfl) | inside) | member
  · exact lineFeed_not_mem_headerLines legible line member
  · exact lineFeed_not_mem_declarationLine legible _
  · decide
  · decide
  · obtain ⟨category, categoryMember, member⟩ := inside
    exact categoryFree category categoryMember line member
  · revert line
    decide

end LineFeeds

/-- A contract determines what it was rendered from: the template, the size
of the array, and the categories with the arguments of their entries. -/
theorem ContractReading.ofText?_renderContract {template : Template}
    {dataset : Dataset} {categories : SpelledDataset}
    (legible : template.IsLegible) (spelled : dataset.IsSpelled categories)
    (names : ∀ category ∈ dataset, Text.lineFeed ∉ category.1)
    (tokens : ∀ category ∈ categories, ∀ arguments ∈ category.2,
      ∀ token ∈ arguments.toList,
        Text.lineFeed ∉ token ∧ ¬ (", " : Text) <:+: token) :
    ∃ text, renderContract template dataset = .ok text ∧
      ContractReading.ofText? text =
        some ⟨template, dataset.total, categories⟩ ∧
      dataset.total = categories.size ∧
      dataset.total =
        (dataset.map fun category => category.2.length).sum := by
  have spelledNames : ∀ category ∈ categories,
      Text.lineFeed ∉ category.1 := by
    intro category member
    have nameMember : category.1 ∈ dataset.categories := by
      rw [← spelled.categories_eq]
      exact List.mem_map_of_mem member
    obtain ⟨source, sourceMember, sameName⟩ := List.mem_map.mp nameMember
    rw [← sameName]
    exact names source sourceMember
  have lines := Template.lineFeed_not_mem_contractLines legible spelledNames
    fun category member arguments inside token tokenMember =>
      (tokens category member arguments inside token tokenMember).1
  have read := ContractReading.ofLines?_contractLines legible
    fun category member arguments inside token tokenMember =>
      (tokens category member arguments inside token tokenMember).2
  refine ⟨_, renderContract_of_isSpelled template spelled, ?_,
    spelled.size_eq.symm, dataset.total_eq_sum⟩
  rw [ContractReading.ofText?, Template.contractText,
    Text.splitOn_ofLines lines, read, spelled.size_eq]

/-- Categories whose names look like other lines, and tokens that end or begin
like separators. -/
def awkwardDataset : Dataset :=
  [([], []),
    ("allocations\x7d", [⟨.text "0xAA,", .int (-7), .text [], .bool true,
      .number "1.50"⟩]),
    ("        allAllocations.push(", [⟨.text " ", .text ",", .text "));",
      .bool false, .number "-0"⟩])]

/-- The awkward tokens as they are spelled. -/
def awkwardCategories : SpelledDataset :=
  [([], []),
    ("allocations\x7d", [⟨"0xAA,", [], "-7", "true", "1.50"⟩]),
    ("        allAllocations.push(", [⟨" ", "));", ",", "false", "-0"⟩])]

/-- Even the awkward contract is read back. -/
theorem ContractReading.ofText?_awkward :
    Template.standard.IsLegible ∧
      awkwardDataset.IsSpelled awkwardCategories ∧
      ∃ text, renderContract .standard awkwardDataset = .ok text ∧
        ContractReading.ofText? text =
          some ⟨.standard, 2, awkwardCategories⟩ := by
  have legible : Template.standard.IsLegible := by
    constructor <;> decide
  have spelled : awkwardDataset.IsSpelled awkwardCategories := by
    refine .cons ⟨rfl, .nil⟩ (.cons ⟨rfl, .cons ?_ .nil⟩
      (.cons ⟨rfl, .cons ?_ .nil⟩ .nil))
    · constructor <;> decide +kernel
    · constructor <;> decide
  obtain ⟨text, rendered, read, -⟩ :=
    ContractReading.ofText?_renderContract legible spelled (by decide)
      (by decide)
  exact ⟨legible, spelled, text, rendered, read⟩

end VestingContract
