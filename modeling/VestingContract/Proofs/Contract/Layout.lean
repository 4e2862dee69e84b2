import Mathlib.Algebra.GroupWithZero.Nat
import Mathlib.Data.List.Forall2
import VestingContract.Contract.Render
import VestingContract.Proofs.Text.Cutting

/-!
# Layout of contracts

A contract line by line, given what is written in the places that vary: the
names of the template, and for every category the spelled arguments of its
entries.  The generator writes exactly these lines, whatever it has written
before, so that properties of contracts are properties of this list of lines.
-/

namespace VestingContract

/-- The spelled arguments of one entry, in the order of the contract. -/
structure PushArguments where
  address : Text
  amountAtEnd : Text
  amountAtStart : Text
  startDate : Text
  endDate : Text
  deriving DecidableEq, Repr

/-- The arguments as a list. -/
def PushArguments.toList (arguments : PushArguments) : List Text :=
  [arguments.address, arguments.amountAtEnd, arguments.amountAtStart,
    arguments.startDate, arguments.endDate]

/-- Categories with the spelled arguments of their entries, in order. -/
abbrev SpelledDataset := List (Text × List PushArguments)

/-- The number of all push statements. -/
def SpelledDataset.size (categories : SpelledDataset) : Nat :=
  (categories.map fun category => category.2.length).sum

/-- Every token of an entry has a spelling, and these are the spellings. -/
structure Entry.IsSpelled (entry : Entry) (arguments : PushArguments) :
    Prop where
  address : entry.address.spell = .ok arguments.address
  amountAtEnd : entry.amountAtEnd.spell = .ok arguments.amountAtEnd
  amountAtStart : entry.amountAtStart.spell = .ok arguments.amountAtStart
  startDate : entry.startDate.spell = .ok arguments.startDate
  endDate : entry.endDate.spell = .ok arguments.endDate

/-- A category keeps its name, and its entries are spelled in order. -/
def IsSpelledCategory (category : Text × List Entry)
    (spelled : Text × List PushArguments) : Prop :=
  category.1 = spelled.1 ∧
    List.Forall₂ Entry.IsSpelled category.2 spelled.2

/-- The categories of a dataset are spelled in order. -/
def Dataset.IsSpelled (dataset : Dataset) (categories : SpelledDataset) :
    Prop :=
  List.Forall₂ IsSpelledCategory dataset categories

theorem Dataset.total_eq_sum (dataset : Dataset) :
    dataset.total =
      (dataset.map fun category => category.2.length).sum := by
  induction dataset with
  | nil => rfl
  | cons category rest ih =>
      simp only [Dataset.total, List.map_cons, List.sum_cons, ih]

theorem Dataset.IsSpelled.size_eq {dataset : Dataset}
    {categories : SpelledDataset} (spelled : dataset.IsSpelled categories) :
    categories.size = dataset.total := by
  induction spelled with
  | nil => rfl
  | @cons category spelledCategory rest spelledRest head _ ih =>
      have sameLength := head.2.length_eq
      simp only [SpelledDataset.size, List.map_cons, List.sum_cons,
        Dataset.total] at ih ⊢
      rw [sameLength, ih]

theorem Dataset.IsSpelled.categories_eq {dataset : Dataset}
    {categories : SpelledDataset} (spelled : dataset.IsSpelled categories) :
    categories.map Prod.fst = dataset.categories := by
  induction spelled with
  | nil => rfl
  | cons head _ ih =>
      simp only [Dataset.categories, List.map_cons] at ih ⊢
      rw [head.1, ih]

namespace Template

/-- The lines before the array. -/
def headerLines (template : Template) : List Text :=
  ["// SPDX-License-Identifier: " ++ template.license,
    "pragma solidity " ++ template.pragma ++ ";",
    [],
    "import \"" ++ template.importPath ++ "\";",
    [],
    "contract " ++ template.contractName ++ " \x7b",
    "   ",
    []]

/-- The line that declares the array and its size. -/
def declarationLine (template : Template) (size : Nat) : Text :=
  "   " ++ template.vestingType ++ "[] public " ++ template.arrayName ++
    " = new " ++ template.vestingType ++ "[](" ++ Text.ofNat size ++ ");"

/-- All that stands before the arguments on the line of an entry. -/
def pushOpening (template : Template) : Text :=
  "        " ++ template.arrayName ++ ".push(" ++ template.vestingType ++ "("

/-- The line of an entry. -/
def argumentsLine (template : Template) (arguments : PushArguments) : Text :=
  template.pushOpening ++ Text.join ", " arguments.toList ++ "));"

/-- The line that names a category. -/
def commentLine (category : Text) : Text :=
  "        // " ++ category ++ " allocations"

/-- The lines of a category: its name, its entries and a separator. -/
def categoryLines (template : Template)
    (category : Text × List PushArguments) : List Text :=
  commentLine category.1 ::
    (category.2.map template.argumentsLine ++ [("   " : Text)])

/-- The lines behind the last category. -/
def footerLines : List Text := ["    \x7d", "\x7d"]

/-- The lines of a contract. -/
def contractLines (template : Template) (categories : SpelledDataset) :
    List Text :=
  template.headerLines ++
    [template.declarationLine categories.size, [], "    constructor() \x7b"] ++
    categories.flatMap template.categoryLines ++ footerLines

/-- The text of a contract. -/
def contractText (template : Template) (categories : SpelledDataset) : Text :=
  Text.ofLines (template.contractLines categories)

theorem pushLine_of_isSpelled (template : Template) {entry : Entry}
    {arguments : PushArguments} (spelled : entry.IsSpelled arguments) :
    template.pushLine entry =
      .ok (Text.ofLines [template.argumentsLine arguments]) := by
  have spellings : entry.arguments = .ok arguments.toList := by
    simp only [Entry.arguments, List.mapM_cons, List.mapM_nil,
      spelled.address, spelled.amountAtEnd, spelled.amountAtStart,
      spelled.startDate, spelled.endDate]
    rfl
  have statement : template.pushStatement entry =
      .ok (template.arrayName ++ ".push(" ++ template.vestingType ++ "(" ++
        Text.join ", " arguments.toList ++ "));") := by
    rw [pushStatement, spellings]
    rfl
  rw [pushLine, statement]
  simp [Text.ofLines, Text.lineFeed, argumentsLine, pushOpening,
    List.append_assoc]
  rfl

end Template

namespace Generator

theorem writeEntries_of_isSpelled (generator : Generator)
    {entries : List Entry} {arguments : List PushArguments}
    (spelled : List.Forall₂ Entry.IsSpelled entries arguments) :
    generator.writeEntries entries =
      ({ generator with pushed := generator.pushed + arguments.length },
        .ok (Text.ofLines
          (arguments.map generator.template.argumentsLine))) := by
  induction spelled generalizing generator with
  | nil => rfl
  | @cons entry first entries rest head _ ih =>
      have line := generator.template.pushLine_of_isSpelled head
      simp only [writeEntries, line, ih, List.length_cons, List.map_cons]
      simp [Text.ofLines, Except.map, Nat.add_comm, Nat.add_left_comm]

theorem writeCategories_of_isSpelled (generator : Generator)
    {dataset : Dataset} {categories : SpelledDataset}
    (spelled : dataset.IsSpelled categories) :
    ∃ notices, generator.writeCategories [] dataset =
      ({ generator with pushed := generator.pushed + categories.size },
        notices,
        .ok (Text.ofLines
          (categories.flatMap generator.template.categoryLines))) := by
  induction spelled generalizing generator with
  | nil => exact ⟨[], rfl⟩
  | @cons category spelledCategory rest spelledRest head _ ih =>
      obtain ⟨sameName, entries⟩ := head
      obtain ⟨notices, written⟩ := ih
        { generator with
          pushed := generator.pushed + spelledCategory.2.length }
      refine ⟨.category category.2.length category.1 :: notices, ?_⟩
      simp only [writeCategories, List.not_mem_nil, if_false,
        generator.writeEntries_of_isSpelled entries, written]
      simp [Text.ofLines, Except.map, SpelledDataset.size, sameName,
        Template.categoryLines, Template.commentLine, categoryComment,
        categorySeparator, Text.lineFeed, Nat.add_assoc]
      rfl

end Generator

/-- A dataset whose tokens can all be spelled is rendered line by line. -/
theorem renderContract_of_isSpelled (template : Template)
    {dataset : Dataset} {categories : SpelledDataset}
    (spelled : dataset.IsSpelled categories) :
    renderContract template dataset =
      .ok (template.contractText categories) := by
  obtain ⟨notices, written⟩ :=
    (Generator.new template).writeCategories_of_isSpelled spelled
  have counted := spelled.size_eq
  have outcome : renderContract template dataset =
      .ok (template.header ++ template.declaration dataset.total ++
        "    constructor() \x7b\n" ++
        Text.ofLines (categories.flatMap template.categoryLines) ++
        contractFooter) := by
    simp only [renderContract, Generator.generate, Generator.new] at written ⊢
    simp [written, counted]
  rw [outcome, ← counted]
  simp only [Template.contractText, Template.contractLines, Text.ofLines]
  simp [Template.headerLines, Template.header, Template.declaration,
    Template.declarationLine, Template.footerLines, contractFooter,
    Text.lineFeed]
  rfl

end VestingContract
