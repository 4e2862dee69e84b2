import VestingContract.Proofs.Dataset.Tokens
import VestingContract.Proofs.Text.LineEnds

/-!
# Names in comments

The name of a category stands in a comment that is meant to take one line, and
nothing keeps line ends out of it.  Every line end in a name adds a line to the
contract, which may look like a statement.  The number of lines that begin like
statements is therefore the declared one just if no comment has such a line,
although the generator counts as many statements as it declares.
-/

namespace VestingContract

namespace Template

/-- The beginning of every line with a statement. -/
def pushBeginning (template : Template) : Text :=
  "        " ++ template.arrayName ++ ".push("

/-- A line that begins like a statement. -/
def isPushLine (template : Template) (line : Text) : Bool :=
  template.pushBeginning.isPrefixOf line

/-- The beginning of every line that names a category. -/
def commentBeginning : Text := "        // "

/-- The lines of a category in which the lines of its comment are told
apart. -/
def cutLines (template : Template) (ends : LineEnds)
    (category : Text × List PushArguments) : List Text :=
  ends.lines (commentLine category.1) ++
    (category.2.map template.argumentsLine ++ [("   " : Text)])

end Template

open Template

section Tokens

variable {ends : LineEnds}

theorem Json.isAsciiPrintable_of_isNumeral {char : Char}
    (numeral : isNumeral char = true) :
    (CodePoint.scalar char).isAsciiPrintable = true := by
  simp only [isNumeral, isDigit, Bool.or_eq_true, Bool.and_eq_true,
    decide_eq_true_eq, beq_iff_eq] at numeral
  rcases numeral with ((((digit | rfl) | rfl) | rfl) | rfl) | rfl
  · have least : 0x30 ≤ (CodePoint.scalar char).value := digit.1
    have greatest : (CodePoint.scalar char).value ≤ 0x39 := digit.2
    simp only [CodePoint.isAsciiPrintable, decide_eq_true_eq]
    omega
  all_goals decide

/-- An entry whose texts have no line ends, so that none of its tokens brings one
into a contract. -/
def Entry.SparesLines (ends : LineEnds) (entry : Entry) : Prop :=
  ∀ content, .text content ∈ entry.tokens → ends.Spares content

theorem Token.spares_of_spell {token : Token} {spelling : Text}
    (written : token.IsWritten)
    (ofText : ∀ content, token = .text content → ends.Spares content)
    (spelled : token.spell = .ok spelling) : ends.Spares spelling := by
  cases written with
  | bool truth =>
      obtain rfl := Except.ok.inj spelled
      apply LineEnds.spares_of_isAsciiPrintable
      cases truth <;> decide
  | text content =>
      obtain rfl := Except.ok.inj spelled
      exact ofText content rfl
  | number numerals =>
      obtain rfl := Except.ok.inj spelled
      intro codePoint member
      obtain ⟨char, isChar, rfl⟩ := List.mem_map.mp member
      exact ends.isEnd_printable _
        (Json.isAsciiPrintable_of_isNumeral (numerals char isChar))

theorem Entry.IsSpelled.spares {entry : Entry} {arguments : PushArguments}
    (spelled : entry.IsSpelled arguments) (written : entry.IsWritten)
    (spares : entry.SparesLines ends) :
    ∀ argument ∈ arguments.toList, ends.Spares argument := by
  have each : ∀ token ∈ entry.tokens, ∀ spelling,
      token.spell = .ok spelling → ends.Spares spelling := by
    intro token isToken spelling spelled
    refine Token.spares_of_spell (written token isToken) ?_ spelled
    rintro content rfl
    exact spares content isToken
  simp only [tokens, List.forall_mem_cons] at each
  obtain ⟨address, amountAtEnd, amountAtStart, startDate, endDate, -⟩ := each
  simp only [PushArguments.toList, List.forall_mem_cons]
  exact ⟨address _ spelled.address, amountAtEnd _ spelled.amountAtEnd,
    amountAtStart _ spelled.amountAtStart, startDate _ spelled.startDate,
    endDate _ spelled.endDate, by simp⟩

end Tokens

section Lines

variable {ends : LineEnds}

theorem spares_argumentsLine {arguments : PushArguments}
    (spares : ∀ argument ∈ arguments.toList, ends.Spares argument) :
    ends.Spares (standard.argumentsLine arguments) := by
  have separator : ends.Spares (", " : Text) :=
    LineEnds.spares_of_isAsciiPrintable (by decide)
  have opening : ends.Spares standard.pushOpening :=
    LineEnds.spares_of_isAsciiPrintable (by decide)
  have closing : ends.Spares ("));" : Text) :=
    LineEnds.spares_of_isAsciiPrintable (by decide)
  simp only [argumentsLine, LineEnds.spares_append_iff]
  exact ⟨⟨opening, LineEnds.spares_join separator spares⟩, closing⟩

theorem spares_declarationLine (size : Nat) :
    ends.Spares (standard.declarationLine size) := by
  have before : ends.Spares ("   " ++ standard.vestingType ++ "[] public " ++
      standard.arrayName ++ " = new " ++ standard.vestingType ++ "[](") :=
    LineEnds.spares_of_isAsciiPrintable (by decide)
  have behind : ends.Spares (");" : Text) :=
    LineEnds.spares_of_isAsciiPrintable (by decide)
  simp only [declarationLine, LineEnds.spares_append_iff] at before ⊢
  exact ⟨⟨before, LineEnds.spares_ofNat size⟩, behind⟩

theorem commentLine_eq (name : Text) :
    commentLine name = commentBeginning ++ (name ++ " allocations") := rfl

theorem spares_commentLine_iff {name : Text} :
    ends.Spares (commentLine name) ↔ ends.Spares name := by
  have around : ends.Spares commentBeginning ∧
      ends.Spares (" allocations" : Text) :=
    ⟨LineEnds.spares_of_isAsciiPrintable (by decide),
      LineEnds.spares_of_isAsciiPrintable (by decide)⟩
  simp only [commentLine_eq, LineEnds.spares_append_iff, around, true_and,
    and_true]

theorem count_commentLine (name : Text) :
    ends.count (commentLine name) = ends.count name := by
  have beginning : ends.count commentBeginning = 0 :=
    LineEnds.count_eq_zero_iff.mpr
      (LineEnds.spares_of_isAsciiPrintable (by decide))
  have closing : ends.count (" allocations" : Text) = 0 :=
    LineEnds.count_eq_zero_iff.mpr
      (LineEnds.spares_of_isAsciiPrintable (by decide))
  rw [commentLine_eq, LineEnds.count_append, LineEnds.count_append, beginning,
    closing]
  omega

/-- The comment of a category is cut into a line that begins like a comment and
one more line for each line end of the name. -/
theorem lines_commentLine (name : Text) :
    ∃ first later, ends.lines (commentLine name) = first :: later ∧
      commentBeginning <+: first ∧ later.length = ends.count name := by
  have beginning : ends.Spares commentBeginning :=
    LineEnds.spares_of_isAsciiPrintable (by decide)
  obtain ⟨first, later, -, isCut⟩ :=
    LineEnds.lines_append beginning (name ++ " allocations")
  rw [← commentLine_eq] at isCut
  refine ⟨_, later, isCut, List.prefix_append _ _, ?_⟩
  have counted := ends.length_lines (commentLine name)
  rw [isCut, List.length_cons, count_commentLine] at counted
  exact Nat.succ.inj counted

end Lines

section Statements

variable {ends : LineEnds}

/-- The lines of the comment of a category that begin like statements. -/
def strayLines (ends : LineEnds) (name : Text) : Nat :=
  (ends.lines (commentLine name)).countP standard.isPushLine

theorem isPushLine_argumentsLine (arguments : PushArguments) :
    standard.isPushLine (standard.argumentsLine arguments) = true := by
  have split : standard.argumentsLine arguments =
      standard.pushBeginning ++ (standard.vestingType ++ "(" ++
        Text.join ", " arguments.toList ++ "));") := by
    simp only [argumentsLine, pushOpening, pushBeginning, List.append_assoc]
  rw [isPushLine, split, List.isPrefixOf_iff_prefix]
  exact List.prefix_append _ _

theorem strayLines_of_spares {name : Text} (spares : ends.Spares name) :
    strayLines ends name = 0 := by
  rw [strayLines, LineEnds.lines_of_spares (spares_commentLine_iff.mpr spares)]
  rfl

/-- The lines of a category that begin like statements are those of its
entries and those in its comment. -/
theorem countP_cutLines (category : Text × List PushArguments) :
    (standard.cutLines ends category).countP standard.isPushLine =
      category.2.length + strayLines ends category.1 := by
  have pushes : (category.2.map standard.argumentsLine).countP
      standard.isPushLine = category.2.length := by
    rw [List.countP_map, List.countP_eq_length]
    intro arguments _
    rw [Function.comp_apply, isPushLine_argumentsLine]
  have separator : [("   " : Text)].countP standard.isPushLine = 0 := by
    decide
  rw [cutLines, List.countP_append, List.countP_append, pushes, separator,
    strayLines]
  omega

theorem countP_flatMap_cutLines (categories : SpelledDataset) :
    (categories.flatMap (standard.cutLines ends)).countP standard.isPushLine =
      categories.size +
        ((categories.map Prod.fst).map (strayLines ends)).sum := by
  induction categories with
  | nil => rfl
  | cons category categories ih =>
      simp only [SpelledDataset.size, List.flatMap_cons, List.countP_append,
        List.map_cons, List.sum_cons, countP_cutLines] at ih ⊢
      rw [ih]
      omega

theorem flatMap_lines_categoryLines {category : Text × List PushArguments}
    (spares : ∀ arguments ∈ category.2,
      ∀ argument ∈ arguments.toList, ends.Spares argument) :
    (standard.categoryLines category).flatMap ends.lines =
      standard.cutLines ends category := by
  have others : ∀ line ∈ category.2.map standard.argumentsLine ++
      [("   " : Text)], ends.Spares line := by
    intro line isLine
    rcases List.mem_append.mp isLine with isPush | isSeparator
    · obtain ⟨arguments, isArguments, rfl⟩ := List.mem_map.mp isPush
      exact spares_argumentsLine (spares arguments isArguments)
    · exact LineEnds.forall_spares_of_isAsciiPrintable (by decide) line
        isSeparator
  rw [categoryLines, List.flatMap_cons,
    LineEnds.flatMap_lines_of_spares others, cutLines]

/-- The lines of a contract whose entries bring no line ends into it. -/
theorem lines_contractText {categories : SpelledDataset}
    (spares : ∀ category ∈ categories, ∀ arguments ∈ category.2,
      ∀ argument ∈ arguments.toList, ends.Spares argument) :
    ends.lines (standard.contractText categories) =
      standard.headerLines ++ [standard.declarationLine categories.size, [],
        "    constructor() \x7b"] ++
      categories.flatMap (standard.cutLines ends) ++
      (footerLines ++ [[]]) := by
  have header : ∀ line ∈ standard.headerLines, ends.Spares line :=
    LineEnds.forall_spares_of_isAsciiPrintable (by decide)
  have footer : ∀ line ∈ footerLines, ends.Spares line :=
    LineEnds.forall_spares_of_isAsciiPrintable (by decide)
  have beginning : ∀ line ∈ [standard.declarationLine categories.size, [],
      ("    constructor() \x7b" : Text)], ends.Spares line :=
    List.forall_mem_cons.mpr ⟨spares_declarationLine _,
      LineEnds.forall_spares_of_isAsciiPrintable (by decide)⟩
  have body : (categories.flatMap standard.categoryLines).flatMap ends.lines =
      categories.flatMap (standard.cutLines ends) := by
    rw [List.flatMap_assoc]
    exact List.flatMap_congr fun category isCategory =>
      flatMap_lines_categoryLines (spares category isCategory)
  rw [contractText, contractLines, LineEnds.lines_ofLines]
  simp only [List.flatMap_append, body,
    LineEnds.flatMap_lines_of_spares header,
    LineEnds.flatMap_lines_of_spares beginning,
    LineEnds.flatMap_lines_of_spares footer, List.append_assoc]

/-- The lines of a contract that begin like statements are those of the entries
and those in the comments. -/
theorem countP_contractText {categories : SpelledDataset}
    (spares : ∀ category ∈ categories, ∀ arguments ∈ category.2,
      ∀ argument ∈ arguments.toList, ends.Spares argument) :
    (ends.lines (standard.contractText categories)).countP
        standard.isPushLine =
      categories.size +
        ((categories.map Prod.fst).map (strayLines ends)).sum := by
  have header : standard.headerLines.countP standard.isPushLine = 0 := by
    decide
  have beginning : [standard.declarationLine categories.size, [],
      ("    constructor() \x7b" : Text)].countP standard.isPushLine = 0 :=
    rfl
  have footer : footerLines.countP standard.isPushLine = 0 := by decide
  have behind : [([] : Text)].countP standard.isPushLine = 0 := by decide
  rw [lines_contractText spares]
  simp only [List.countP_append, header, beginning, footer, behind,
    countP_flatMap_cutLines]
  omega

end Statements

section Datasets

variable {ends : LineEnds}

theorem spares_of_areSpelled {entries : List Entry}
    {arguments : List PushArguments}
    (spelled : List.Forall₂ Entry.IsSpelled entries arguments)
    (written : ∀ entry ∈ entries, entry.IsWritten)
    (spares : ∀ entry ∈ entries, entry.SparesLines ends) :
    ∀ spelling ∈ arguments, ∀ argument ∈ spelling.toList,
      ends.Spares argument := by
  induction spelled with
  | nil => simp
  | cons head _ ih =>
      rw [List.forall_mem_cons] at written spares ⊢
      exact ⟨head.spares written.1 spares.1, ih written.2 spares.2⟩

theorem Dataset.IsSpelled.spares {dataset : Dataset}
    {categories : SpelledDataset} (spelled : dataset.IsSpelled categories)
    (written : dataset.IsWritten)
    (spares : ∀ category ∈ dataset, ∀ entry ∈ category.2,
      entry.SparesLines ends) :
    ∀ category ∈ categories, ∀ arguments ∈ category.2,
      ∀ argument ∈ arguments.toList, ends.Spares argument := by
  induction spelled with
  | nil => simp
  | cons head _ ih =>
      rw [IsWritten, List.forall_mem_cons] at written
      rw [List.forall_mem_cons] at spares ⊢
      exact ⟨spares_of_areSpelled head.2 written.1 spares.1,
        ih written.2 spares.2⟩

namespace Dataset

/-- What a contract shows of the names of its categories, line by line.  A name
takes one line more for each of its line ends, and as many lines begin like
statements as are declared just if no such line is in a comment. -/
structure ShowsNames (ends : LineEnds) (dataset : Dataset) (text : Text) :
    Prop where
  lines : ∃ categories, dataset.IsSpelled categories ∧
    ends.lines text = standard.headerLines ++
      [standard.declarationLine dataset.total, [], "    constructor() \x7b"] ++
      categories.flatMap (standard.cutLines ends) ++ (footerLines ++ [[]])
  comments : ∀ name ∈ dataset.categories, ∃ first later,
    ends.lines (commentLine name) = first :: later ∧
      commentBeginning <+: first ∧ later.length = ends.count name
  single : ∀ name ∈ dataset.categories,
    ends.lines (commentLine name) = [commentLine name] ↔ ends.Spares name
  pushes : (ends.lines text).countP standard.isPushLine =
    dataset.total + (dataset.categories.map (strayLines ends)).sum
  filled : (ends.lines text).countP standard.isPushLine = dataset.total ↔
    ∀ name ∈ dataset.categories, strayLines ends name = 0
  sparing : (∀ name ∈ dataset.categories, ends.Spares name) →
    (ends.lines text).countP standard.isPushLine = dataset.total

theorem IsSpelled.showsNames {dataset : Dataset} {categories : SpelledDataset}
    (spelled : dataset.IsSpelled categories) (written : dataset.IsWritten)
    (spares : ∀ category ∈ dataset, ∀ entry ∈ category.2,
      entry.SparesLines ends) :
    dataset.ShowsNames ends (standard.contractText categories) := by
  have ofArguments := spelled.spares written spares
  have pushes := countP_contractText ofArguments
  rw [spelled.size_eq, spelled.categories_eq] at pushes
  have filled : (ends.lines (standard.contractText categories)).countP
      standard.isPushLine = dataset.total ↔
        ∀ name ∈ dataset.categories, strayLines ends name = 0 := by
    rw [pushes, Nat.add_eq_left, List.sum_eq_zero_iff_forall_eq_nat,
      List.forall_mem_map]
  exact {
    lines := ⟨categories, spelled, by
      rw [lines_contractText ofArguments, spelled.size_eq]⟩
    comments := fun name _ => lines_commentLine name
    single := fun _ _ =>
      LineEnds.lines_eq_singleton_iff.trans spares_commentLine_iff
    pushes := pushes
    filled := filled
    sparing := fun names => filled.mpr fun name isName =>
      strayLines_of_spares (names name isName) }

/-- Whatever the names of a dataset that is loaded, if its texts bring no line
end into a contract then the contract shows each name in a comment with as many
further lines as the name has line ends, and lines beyond the declared number
begin like statements just as far as such lines are in comments. -/
theorem load_showsNames {path : PathName} {world after : World}
    {dataset : Dataset} (ends : LineEnds)
    (loaded : (Dataset.load path).run world = (.ok dataset, after))
    (spares : ∀ category ∈ dataset, ∀ entry ∈ category.2,
      entry.SparesLines ends) :
    ∃ text, renderContract .standard dataset = .ok text ∧
      dataset.ShowsNames ends text := by
  have written := isWritten_of_load loaded
  obtain ⟨categories, spelled⟩ := exists_isSpelled_of_load loaded
  exact ⟨_, renderContract_of_isSpelled .standard spelled,
    spelled.showsNames written spares⟩

section Misleading

/-- A document in which the name of a category looks like a statement from its
second line on. -/
def misleadingDocument : List UInt8 := Utf8.encodeChars
  ("\x7b\"A\\n        allAllocations.push(\":[".toList ++
    "\x7b\"address\":\"0xA\",\"allocationAtStartDate\":1,".toList ++
    "\"allocationAtEndDate\":2,\"startDate\":3,\"endDate\":4\x7d]\x7d".toList)

/-- The dataset of the document. -/
def misleadingDataset : Dataset :=
  [("A\n        allAllocations.push(",
    [⟨.text "0xA", .number "1", .number "2", .number "3", .number "4"⟩])]

theorem load_misleadingDocument : ∃ after,
    (Dataset.load singlePath).run (singleFile misleadingDocument) =
      (.ok misleadingDataset, after) :=
  load_of_ofBytes (find_singleFile _) check_singlePath
    (not_writesTo_singleFile _) (by decide +kernel)

theorem sparesLines_misleadingDataset :
    ∀ category ∈ misleadingDataset, ∀ entry ∈ category.2,
      entry.SparesLines .lineFeeds := by
  simp only [misleadingDataset, List.forall_mem_singleton]
  intro content isText
  simp only [Entry.tokens, List.mem_cons, Token.text.injEq, reduceCtorEq,
    List.not_mem_nil, or_false] at isText
  rw [isText]
  exact LineEnds.spares_of_isAsciiPrintable (by decide)

/-- Two lines of the contract begin like statements, and one is declared. -/
theorem load_shows_misleadingDataset : ∃ text after,
    (Dataset.load singlePath).run (singleFile misleadingDocument) =
        (.ok misleadingDataset, after) ∧
      renderContract .standard misleadingDataset = .ok text ∧
      (LineEnds.lineFeeds.lines text).countP standard.isPushLine = 2 ∧
      misleadingDataset.total = 1 := by
  obtain ⟨after, loaded⟩ := load_misleadingDocument
  obtain ⟨text, rendered, shows⟩ :=
    load_showsNames .lineFeeds loaded sparesLines_misleadingDataset
  refine ⟨text, after, loaded, rendered, ?_, rfl⟩
  rw [shows.pushes]
  decide +kernel

/-- Not every contract shows as many lines that begin like statements as it
declares. -/
theorem load_shows_other_lines :
    ¬ ∀ (path : PathName) (world after : World) (dataset : Dataset),
      (Dataset.load path).run world = (.ok dataset, after) →
      (∀ category ∈ dataset, ∀ entry ∈ category.2,
        entry.SparesLines .lineFeeds) →
      ∃ text, renderContract .standard dataset = .ok text ∧
        (LineEnds.lineFeeds.lines text).countP standard.isPushLine =
          dataset.total := by
  intro claim
  obtain ⟨after, loaded⟩ := load_misleadingDocument
  obtain ⟨text, rendered, counted⟩ :=
    claim _ _ after _ loaded sparesLines_misleadingDataset
  have shown : (renderContract .standard misleadingDataset).toOption.map
      (fun text => (LineEnds.lineFeeds.lines text).countP
        standard.isPushLine) = some 2 := by
    decide +kernel
  rw [rendered] at shown
  have two : (LineEnds.lineFeeds.lines text).countP standard.isPushLine = 2 :=
    Option.some.inj shown
  rw [counted] at two
  exact absurd two (by decide)

end Misleading

end Dataset

end Datasets

end VestingContract
