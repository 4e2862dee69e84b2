import VestingContract.Proofs.Contract.Names
import VestingContract.Proofs.Text.Literals

/-!
# Headers of contracts

The license, the pragma and the import are meant to take one line each, and
the path of the import is meant to stay inside its literal.  The rules of a
configuration are too weak for this: a license may hold a carriage return, a
pragma and a path may hold any line end, and a backslash behind the path takes
the closing quote mark along.  The header is well formed just if no field has
such a part and the name of the contract is an identifier.
-/

namespace VestingContract

section Identifiers

variable {ends : LineEnds} {name : Text}

theorem CodePoint.IsNameLetter.isAsciiPrintable {codePoint : CodePoint}
    (isLetter : codePoint.IsNameLetter) :
    codePoint.isAsciiPrintable = true := by
  obtain ⟨char, rfl, ⟨least, greatest⟩ | ⟨least, greatest⟩ | rfl | rfl⟩ :=
    isLetter
  · have least : 0x41 ≤ (CodePoint.scalar char).value := least
    have greatest : (CodePoint.scalar char).value ≤ 0x5A := greatest
    simp only [CodePoint.isAsciiPrintable, decide_eq_true_eq]
    omega
  · have least : 0x61 ≤ (CodePoint.scalar char).value := least
    have greatest : (CodePoint.scalar char).value ≤ 0x7A := greatest
    simp only [CodePoint.isAsciiPrintable, decide_eq_true_eq]
    omega
  all_goals decide

theorem CodePoint.IsNameDigit.isAsciiPrintable {codePoint : CodePoint}
    (isDigit : codePoint.IsNameDigit) :
    codePoint.isAsciiPrintable = true := by
  obtain ⟨char, rfl, least, greatest⟩ := isDigit
  have least : 0x30 ≤ (CodePoint.scalar char).value := least
  have greatest : (CodePoint.scalar char).value ≤ 0x39 := greatest
  simp only [CodePoint.isAsciiPrintable, decide_eq_true_eq]
  omega

theorem Text.IsIdentifier.spares (identifier : name.IsIdentifier) :
    ends.Spares name := by
  obtain ⟨begins, continues⟩ := identifier
  intro codePoint member
  apply ends.isEnd_printable
  rcases List.mem_cons.mp member with rfl | member
  · exact begins.isAsciiPrintable
  · rcases continues _ member with isLetter | isDigit
    · exact isLetter.isAsciiPrintable
    · exact isDigit.isAsciiPrintable

/-- What passes for a name has no line ends just if it is an identifier. -/
theorem Text.IsNameLine.spares_iff (isName : name.IsNameLine) :
    ends.Spares name ↔ name.IsIdentifier := by
  constructor
  · intro spares
    refine isName.isIdentifier_iff.mpr fun member => ?_
    have noEnd := spares _ member
    rw [ends.isEnd_lineFeed] at noEnd
    cases noEnd
  · exact fun identifier => identifier.spares

end Identifiers

namespace Template

/-- The line that names the license. -/
def licenseLine (template : Template) : Text :=
  "// SPDX-License-Identifier: " ++ template.license

/-- The line that names the versions of the language. -/
def pragmaLine (template : Template) : Text :=
  "pragma solidity " ++ template.pragma ++ ";"

/-- The line that imports what a literal names. -/
def importLine (literal : Text) : Text :=
  "import " ++ literal ++ ";"

/-- The lines of a header, each of them meant to be one line of a contract. -/
def openingLines (template : Template) : List Text :=
  [template.licenseLine, template.pragmaLine, [],
    importLine template.importPath.between, [], template.contractLine]

/-- The first six lines are a header: the license, the pragma, an empty line,
the import of a closed literal, an empty line and the opening of the
contract. -/
def Heads (template : Template) (lines : List Text) : Prop :=
  ∃ literal later, literal.IsLiteral ∧
    lines = template.licenseLine :: template.pragmaLine :: [] ::
      importLine literal :: [] :: template.contractLine :: later

/-- No field of a header breaks out of its line, nor the path of the import out
of its literal. -/
structure FitsHeader (ends : LineEnds) (template : Template) : Prop where
  license : ends.Spares template.license
  pragma : ends.Spares template.pragma
  importPath : ends.Spares template.importPath
  importText : Even template.importPath.finalBackslashes
  contractName : template.contractName.IsIdentifier

section Lines

variable {template : Template} {ends : LineEnds}

/-- A contract begins with the lines of its header. -/
theorem exists_rest_of_renderContract {dataset : Dataset} {text : Text}
    (rendered : renderContract template dataset = .ok text) :
    ∃ rest, text = Text.ofLines template.openingLines ++ rest := by
  have header : template.header =
      Text.ofLines template.openingLines ++ "   \n\n" := by
    simp only [Template.header, openingLines, licenseLine, pragmaLine,
      importLine, contractLine, Text.between, Text.ofLines]
    simp [Text.lineFeed]
    rfl
  rw [renderContract, Generator.generate] at rendered
  simp only at rendered
  split at rendered
  · cases rendered
  · split at rendered
    · rw [← Except.ok.inj rendered, Generator.new, header]
      simp only [List.append_assoc]
      exact ⟨_, rfl⟩
    · cases rendered

theorem spares_licenseLine_iff :
    ends.Spares template.licenseLine ↔ ends.Spares template.license := by
  have before : ends.Spares ("// SPDX-License-Identifier: " : Text) :=
    LineEnds.spares_of_isAsciiPrintable (by decide)
  simp only [licenseLine, LineEnds.spares_append_iff, before, true_and]

theorem spares_pragmaLine_iff :
    ends.Spares template.pragmaLine ↔ ends.Spares template.pragma := by
  have around : ends.Spares ("pragma solidity " : Text) ∧
      ends.Spares (";" : Text) :=
    ⟨LineEnds.spares_of_isAsciiPrintable (by decide),
      LineEnds.spares_of_isAsciiPrintable (by decide)⟩
  simp only [pragmaLine, LineEnds.spares_append_iff, around, true_and,
    and_true]

theorem spares_contractLine_iff :
    ends.Spares template.contractLine ↔ ends.Spares template.contractName := by
  have around : ends.Spares ("contract " : Text) ∧
      ends.Spares (" \x7b" : Text) :=
    ⟨LineEnds.spares_of_isAsciiPrintable (by decide),
      LineEnds.spares_of_isAsciiPrintable (by decide)⟩
  simp only [contractLine, LineEnds.spares_append_iff, around, true_and,
    and_true]

end Lines

section Imports

variable {ends : LineEnds} {path literal : Text} {behind later : List Text}

/-- What stands before a path on the line of its import. -/
def importOpening : Text := "import \""

/-- What stands behind the path. -/
def importClosing : Text := "\";"

theorem importLine_between (content : Text) :
    importLine content.between =
      importOpening ++ (content ++ importClosing) := by
  simp only [importLine, Text.between, importOpening, importClosing]
  simp
  rfl

theorem spares_importOpening : ends.Spares importOpening :=
  LineEnds.spares_of_isAsciiPrintable (by decide)

theorem spares_importClosing : ends.Spares importClosing :=
  LineEnds.spares_of_isAsciiPrintable (by decide)

theorem spares_importLine_iff :
    ends.Spares (importLine path.between) ↔ ends.Spares path := by
  simp only [importLine_between, LineEnds.spares_append_iff,
    spares_importOpening, spares_importClosing, true_and, and_true]

/-- A line end in a path cuts the line before its closing quote mark, so that
what is left is the import of no literal. -/
theorem eq_of_lines_importLine (noQuotes : Text.doubleQuote ∉ path)
    {content : Text}
    (begins : ends.lines (importLine path.between) ++ behind =
      importLine content.between :: later) : content = path := by
  have head := congrArg List.head? begins
  rw [List.head?_append, LineEnds.head?_lines, Option.some_or,
    List.head?_cons, Option.some.injEq, importLine_between,
    importLine_between, List.takeWhile_append_of_pos fun codePoint member => by
      rw [spares_importOpening codePoint member, Bool.not_false]] at head
  have cut := List.append_cancel_left head
  rw [List.takeWhile_append] at cut
  split at cut
  · rw [List.takeWhile_eq_self_iff.mpr fun codePoint member => by
      rw [spares_importClosing codePoint member, Bool.not_false]] at cut
    exact (List.append_cancel_right cut).symm
  · have inside : Text.doubleQuote ∈ content ++ importClosing :=
      List.mem_append_right content List.mem_cons_self
    rw [← cut] at inside
    exact absurd ((List.takeWhile_sublist _).subset inside) noQuotes

/-- Lines begin with the import of some literal just if the path has no line
ends and the literal around it is closed. -/
theorem exists_importLine_iff (noQuotes : Text.doubleQuote ∉ path) :
    (∃ literal, literal.IsLiteral ∧
        ends.lines (importLine path.between) ++ behind =
          importLine literal :: later) ↔
      (ends.Spares path ∧ Even path.finalBackslashes) ∧ behind = later := by
  constructor
  · rintro ⟨_, ⟨content, isContent, rfl⟩, begins⟩
    obtain rfl := eq_of_lines_importLine noQuotes begins
    obtain ⟨spares, same⟩ := LineEnds.lines_append_eq_cons_iff.mp begins
    exact ⟨⟨spares_importLine_iff.mp spares,
      (Text.isLiteralContent_iff noQuotes).mp isContent⟩, same⟩
  · rintro ⟨⟨spares, even⟩, same⟩
    exact ⟨path.between,
      ⟨path, (Text.isLiteralContent_iff noQuotes).mpr even, rfl⟩,
      LineEnds.lines_append_eq_cons_iff.mpr
        ⟨spares_importLine_iff.mpr spares, same⟩⟩

end Imports

/-- The lines of a contract with a sound template begin with a header just if
every field fits into it. -/
theorem IsSound.heads_iff {template : Template} (sound : template.IsSound)
    {ends : LineEnds} {dataset : Dataset} {text : Text}
    (rendered : renderContract template dataset = .ok text) :
    template.Heads (ends.lines text) ↔ template.FitsHeader ends := by
  obtain ⟨rest, rfl⟩ := exists_rest_of_renderContract rendered
  have isName : template.contractName.IsNameLine :=
    sound.names _ List.mem_cons_self
  have cut : ends.lines (Text.ofLines template.openingLines ++ rest) =
      ends.lines template.licenseLine ++ (ends.lines template.pragmaLine ++
        [] :: (ends.lines (importLine template.importPath.between) ++
          [] :: (ends.lines template.contractLine ++ ends.lines rest))) := by
    have empty : ends.lines [] = [[]] := rfl
    rw [LineEnds.lines_ofLines_append]
    simp [openingLines, empty]
  have split : template.Heads
        (ends.lines (Text.ofLines template.openingLines ++ rest)) ↔
      ends.Spares template.license ∧ ends.Spares template.pragma ∧
        (ends.Spares template.importPath ∧
          Even template.importPath.finalBackslashes) ∧
        ends.Spares template.contractName := by
    -- Each line of the header is taken off the front, and it is one line just
    -- if its field spares the line ends.
    rw [cut]
    constructor
    · rintro ⟨literal, later, isLiteral, begins⟩
      obtain ⟨license, begins⟩ := LineEnds.lines_append_eq_cons_iff.mp begins
      obtain ⟨pragma, begins⟩ := LineEnds.lines_append_eq_cons_iff.mp begins
      obtain ⟨imported, begins⟩ := (exists_importLine_iff sound.importText).mp
        ⟨literal, isLiteral, List.tail_eq_of_cons_eq begins⟩
      obtain ⟨contractName, -⟩ := LineEnds.lines_append_eq_cons_iff.mp
        (List.tail_eq_of_cons_eq begins)
      exact ⟨spares_licenseLine_iff.mp license,
        spares_pragmaLine_iff.mp pragma, imported,
        spares_contractLine_iff.mp contractName⟩
    · rintro ⟨license, pragma, imported, contractName⟩
      obtain ⟨literal, isLiteral, begins⟩ :=
        (exists_importLine_iff sound.importText).mpr ⟨imported, rfl⟩
      refine ⟨literal, ends.lines rest, isLiteral, ?_⟩
      rw [LineEnds.lines_of_spares (spares_licenseLine_iff.mpr license),
        LineEnds.lines_of_spares (spares_pragmaLine_iff.mpr pragma), begins,
        LineEnds.lines_of_spares (spares_contractLine_iff.mpr contractName)]
      rfl
  rw [split, isName.spares_iff]
  constructor
  · rintro ⟨license, pragma, ⟨importPath, importText⟩, contractName⟩
    exact ⟨license, pragma, importPath, importText, contractName⟩
  · rintro ⟨license, pragma, importPath, importText, contractName⟩
    exact ⟨license, pragma, ⟨importPath, importText⟩, contractName⟩

end Template

namespace Configuration

/-- However a configuration is written and whatever the dataset is, a contract
that is rendered with it begins with a header just if the fields of the header
fit into it. -/
theorem load_heads_contract {given : Option PathName} {world after : World}
    {configuration : Configuration} {ends : LineEnds} {dataset : Dataset}
    {text : Text}
    (loads : (Configuration.load given).run world =
      (.ok configuration, after))
    (rendered : renderContract configuration.template dataset = .ok text) :
    configuration.template.Heads (ends.lines text) ↔
      configuration.template.FitsHeader ends :=
  (isSound_of_load loads).template.heads_iff rendered

section Documents

/-- A document with the name of a directory that ends in two backslashes. -/
def directoryDocument : List UInt8 := Utf8.encodeChars
  ("paths: \x7binput: a, output: b\x7d\n".toList ++
    "template:\n  import_path: 'a\\\\'\n".toList)

/-- The configuration of the document. -/
def directoryConfiguration : Configuration where
  input := ⟨0, ["a"]⟩
  output := ⟨0, ["b"]⟩
  template := { Template.standard with importPath := "a\\\\" }
  logging := .standard

theorem load_directoryDocument : ∃ after,
    (Configuration.load (some Dataset.singlePath)).run
        (Dataset.singleFile directoryDocument) =
      (.ok directoryConfiguration, after) := by
  have ends : ((Configuration.load (some Dataset.singlePath)).run
      (Dataset.singleFile directoryDocument)).1 =
        .ok directoryConfiguration := by
    decide +kernel
  exact ⟨_, Prod.ext ends rfl⟩

theorem fitsHeader_directoryConfiguration (ends : LineEnds) :
    directoryConfiguration.template.FitsHeader ends where
  license := LineEnds.spares_of_isAsciiPrintable (by decide)
  pragma := LineEnds.spares_of_isAsciiPrintable (by decide)
  importPath := LineEnds.spares_of_isAsciiPrintable (by decide)
  importText := by decide
  contractName :=
    (Text.isIdentifierLine_iff.mp (by decide)).isIdentifier_iff.mpr
      (by decide)

/-- The second of two backslashes leaves the closing quote mark alone. -/
theorem load_heads_directoryDocument : ∃ after text,
    (Configuration.load (some Dataset.singlePath)).run
        (Dataset.singleFile directoryDocument) =
      (.ok directoryConfiguration, after) ∧
    renderContract directoryConfiguration.template [] = .ok text ∧
    directoryConfiguration.template.Heads
      (LineEnds.feedsAndReturns.lines text) := by
  obtain ⟨after, loads⟩ := load_directoryDocument
  obtain ⟨text, rendered⟩ : ∃ text,
      renderContract directoryConfiguration.template [] = .ok text :=
    ⟨_, rfl⟩
  exact ⟨after, text, loads, rendered, (load_heads_contract loads rendered).mpr
    (fitsHeader_directoryConfiguration _)⟩

/-- A document with the versions of the language in a block of lines. -/
def versionDocument : List UInt8 := Utf8.encodeChars
  ("paths: \x7binput: a, output: b\x7d\n".toList ++
    "template:\n  pragma: |\n    ^0.8.19\n".toList)

/-- The configuration of the document. -/
def versionConfiguration : Configuration where
  input := ⟨0, ["a"]⟩
  output := ⟨0, ["b"]⟩
  template := { Template.standard with pragma := "^0.8.19\n" }
  logging := .standard

theorem load_versionDocument : ∃ after,
    (Configuration.load (some Dataset.singlePath)).run
        (Dataset.singleFile versionDocument) =
      (.ok versionConfiguration, after) := by
  have ends : ((Configuration.load (some Dataset.singlePath)).run
      (Dataset.singleFile versionDocument)).1 =
        .ok versionConfiguration := by
    decide +kernel
  exact ⟨_, Prod.ext ends rfl⟩

/-- Not every contract begins with a header. -/
theorem load_heads_other_lines :
    ¬ ∀ (given : Option PathName) (world after : World)
      (configuration : Configuration) (dataset : Dataset) (text : Text),
      (Configuration.load given).run world = (.ok configuration, after) →
      renderContract configuration.template dataset = .ok text →
      configuration.template.Heads
        (LineEnds.feedsAndReturns.lines text) := by
  intro claim
  obtain ⟨after, loads⟩ := load_versionDocument
  obtain ⟨text, rendered⟩ : ∃ text,
      renderContract versionConfiguration.template [] = .ok text :=
    ⟨_, rfl⟩
  have fits := ((isSound_of_load loads).template.heads_iff rendered).mp
    (claim _ _ after _ [] text loads rendered)
  have isEnd : Text.lineFeed ∈ versionConfiguration.template.pragma := by
    decide
  have noEnd := fits.pragma _ isEnd
  rw [LineEnds.isEnd_lineFeed] at noEnd
  cases noEnd

end Documents

end Configuration

end VestingContract
