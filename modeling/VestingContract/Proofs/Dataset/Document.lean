import VestingContract.Dataset.Document
import VestingContract.Proofs.Contract.Layout
import VestingContract.Proofs.Dataset.Categories
import VestingContract.Proofs.Json.Merging
import VestingContract.Proofs.Json.Reading
import VestingContract.Proofs.Text.Utf8

/-!
# Documents that describe datasets

A document describes categories of spelled entries if its members name the
categories and every entry holds a literal under each of the five names.
However such a document is spelled, the dataset in it has these categories
and spells its tokens as the literals are written.
-/

namespace VestingContract

namespace Value

theorem sameKey_text_iff {found : Value} {key : Text} :
    found.sameKey (.text key) = true ↔ found = .text key := by
  cases found <;> simp [sameKey, numeric?]

theorem lookup?_insertPair (key name : Text) (value : Value)
    (pairs : List (Value × Value)) :
    lookup? name (insertPair (.text key) value pairs) =
      if key = name then some value else lookup? name pairs := by
  induction pairs with
  | nil => rfl
  | cons pair pairs ih =>
      obtain ⟨found, old⟩ := pair
      rw [insertPair]
      by_cases same : found.sameKey (.text key) = true
      · obtain rfl := sameKey_text_iff.mp same
        rw [if_pos same, lookup?, lookup?]
        split <;> rfl
      · rw [if_neg same]
        cases found with
        | text other =>
            have different : other ≠ key := fun equal =>
              same (sameKey_text_iff.mpr (congrArg Value.text equal))
            rw [lookup?, lookup?, ih]
            by_cases isName : key = name
            · subst isName
              rw [if_neg different, if_pos rfl, if_pos rfl]
            · rw [if_neg isName, if_neg isName]
        | _ => exact ih

end Value

namespace Json

section Members

variable (ofNumber : List Char → Value)

theorem toValues_eq_map (items : List Json) :
    toValues ofNumber items = items.map (toValue ofNumber) := by
  induction items with
  | nil => rfl
  | cons item items ih => rw [toValues, ih, List.map_cons]

theorem lookup?_members_of_not_mem {name : Text}
    (members : List (Text × Json)) (absent : name ∉ members.map Prod.fst)
    (pairs : List (Value × Value)) :
    Value.lookup? name ((toPairs ofNumber members).foldl
      (fun mapping pair => Value.insertPair pair.1 pair.2 mapping) pairs) =
      Value.lookup? name pairs := by
  induction members generalizing pairs with
  | nil => rfl
  | cons member members ih =>
      simp only [List.map_cons, List.mem_cons, not_or] at absent
      rw [toPairs, List.foldl_cons, ih absent.2, Value.lookup?_insertPair,
        if_neg (Ne.symm absent.1)]

theorem lookup?_members_last {name : Text} {after : List (Text × Json)}
    (absent : name ∉ after.map Prod.fst) (before : List (Text × Json))
    (member : Json) (pairs : List (Value × Value)) :
    Value.lookup? name
      ((toPairs ofNumber (before ++ (name, member) :: after)).foldl
        (fun mapping pair => Value.insertPair pair.1 pair.2 mapping)
        pairs) = some (member.toValue ofNumber) := by
  induction before generalizing pairs with
  | nil =>
      rw [List.nil_append, toPairs, List.foldl_cons,
        lookup?_members_of_not_mem ofNumber after absent,
        Value.lookup?_insertPair, if_pos rfl]
  | cons first before ih =>
      rw [List.cons_append, toPairs, List.foldl_cons, ih]

end Members

section Descriptions

/-- The text of a literal: a text without its quote marks, a number as it is
written, and the name of a truth value. -/
def literalText? : Json → Option Text
  | bool truth => some (if truth then "true" else "false")
  | number lexeme => some (Text.ofChars lexeme)
  | text content => some content
  | _ => none

/-- A name occurs once among members, with a literal of a text. -/
def HoldsOnce (members : List (Text × Json)) (name spelling : Text) : Prop :=
  ∃ before literal after, members = before ++ (name, literal) :: after ∧
    name ∉ before.map Prod.fst ∧ name ∉ after.map Prod.fst ∧
    literal.literalText? = some spelling

/-- An object with the five fields of an entry and any other members. -/
def IsEntry (item : Json) (arguments : PushArguments) : Prop :=
  ∃ members, item = object members ∧
    HoldsOnce members "address" arguments.address ∧
    HoldsOnce members "allocationAtStartDate" arguments.amountAtStart ∧
    HoldsOnce members "allocationAtEndDate" arguments.amountAtEnd ∧
    HoldsOnce members "startDate" arguments.startDate ∧
    HoldsOnce members "endDate" arguments.endDate

/-- The name of a category with the list of its entries. -/
def IsCategory (member : Text × Json)
    (category : Text × List PushArguments) : Prop :=
  member.1 = category.1 ∧ ∃ items, member.2 = array items ∧
    List.Forall₂ IsEntry items category.2

/-- A document that lists categories of different names in order. -/
def Describes (document : Json) (categories : SpelledDataset) : Prop :=
  ∃ members, document = object members ∧
    List.Forall₂ IsCategory members categories ∧
    (categories.map Prod.fst).Nodup

end Descriptions

end Json

section Validation

/-- Numbers of a document as they are kept in a dataset. -/
def numberLiteral (lexeme : List Char) : Value :=
  .literal (Text.ofChars lexeme)

theorem Token.ofValue_literal {document : Json} {spelling : Text}
    (isLiteral : document.literalText? = some spelling) :
    ∃ token, Token.ofValue (document.toValue numberLiteral) = .ok token ∧
      token.spell = .ok spelling := by
  cases document with
  | bool truth =>
      cases isLiteral
      exact ⟨.bool truth, rfl, rfl⟩
  | number lexeme =>
      cases isLiteral
      exact ⟨.number (Text.ofChars lexeme), rfl, rfl⟩
  | text =>
      cases isLiteral
      exact ⟨.text spelling, rfl, rfl⟩
  | _ => cases isLiteral

/-- A field that is there once is read as a token with its text. -/
theorem Entry.field_of_holdsOnce {members : List (Text × Json)}
    {name spelling : Text} (holds : Json.HoldsOnce members name spelling) :
    ∃ token, Entry.field ((Json.toPairs numberLiteral members).foldl
        (fun mapping pair => Value.insertPair pair.1 pair.2 mapping) [])
        name = .ok token ∧ token.spell = .ok spelling := by
  obtain ⟨before, literal, after, rfl, -, absent, isLiteral⟩ := holds
  obtain ⟨token, isToken, spelled⟩ := Token.ofValue_literal isLiteral
  have found := Json.lookup?_members_last numberLiteral absent before
    literal []
  exact ⟨token, by rw [Entry.field, found]; exact isToken, spelled⟩

theorem Entry.ofValue_of_isEntry {item : Json} {arguments : PushArguments}
    (isEntry : item.IsEntry arguments) :
    ∃ entry, Entry.ofValue (item.toValue numberLiteral) = .ok entry ∧
      entry.IsSpelled arguments := by
  obtain ⟨members, rfl, address, amountAtStart, amountAtEnd, startDate,
    endDate⟩ := isEntry
  obtain ⟨first, firstField, firstSpelled⟩ := Entry.field_of_holdsOnce address
  obtain ⟨second, secondField, secondSpelled⟩ :=
    Entry.field_of_holdsOnce amountAtStart
  obtain ⟨third, thirdField, thirdSpelled⟩ :=
    Entry.field_of_holdsOnce amountAtEnd
  obtain ⟨fourth, fourthField, fourthSpelled⟩ :=
    Entry.field_of_holdsOnce startDate
  obtain ⟨fifth, fifthField, fifthSpelled⟩ := Entry.field_of_holdsOnce endDate
  refine ⟨⟨first, second, third, fourth, fifth⟩, ?_,
    ⟨firstSpelled, thirdSpelled, secondSpelled, fourthSpelled,
      fifthSpelled⟩⟩
  have isEntry : Entry.ofFields? _ = some ⟨_, _, _, _, _⟩ :=
    Entry.ofFields?_eq_some_iff.mpr
      ⟨firstField, secondField, thirdField, fourthField, fifthField⟩
  rw [Json.toValue, Value.mapOfPairs, Entry.ofValue, isEntry]

theorem Entry.ofValues_of_isEntry {items : List Json}
    {arguments : List PushArguments}
    (areEntries : List.Forall₂ Json.IsEntry items arguments)
    (position : Nat) :
    ∃ entries,
      Entry.ofValues position (items.map (Json.toValue numberLiteral)) =
        .ok entries ∧
      List.Forall₂ Entry.IsSpelled entries arguments := by
  induction areEntries generalizing position with
  | nil => exact ⟨[], rfl, .nil⟩
  | cons head _ ih =>
      obtain ⟨entry, valid, spelled⟩ := Entry.ofValue_of_isEntry head
      obtain ⟨entries, validRest, spelledRest⟩ := ih (position + 1)
      refine ⟨entry :: entries, ?_, .cons spelled spelledRest⟩
      rw [List.map_cons, Entry.ofValues, valid, validRest]

theorem entriesOf_of_isCategory {member : Text × Json}
    {category : Text × List PushArguments}
    (isCategory : Json.IsCategory member category) :
    ∃ entries,
      entriesOf (member.2.toValue numberLiteral) = .ok entries ∧
      IsSpelledCategory (member.1, entries) category := by
  obtain ⟨name, member⟩ := member
  obtain ⟨sameName, items, rfl, areEntries⟩ := isCategory
  obtain ⟨entries, valid, spelled⟩ :=
    Entry.ofValues_of_isEntry areEntries 0
  refine ⟨entries, ?_, sameName, spelled⟩
  rw [Json.toValue, Json.toValues_eq_map, entriesOf, Value.listed?]
  exact valid

/-- A member names a category and holds its entries. -/
def HoldsCategory (member : Text × Json) (category : Text × List Entry) :
    Prop :=
  member.1 = category.1 ∧
    entriesOf (member.2.toValue numberLiteral) = .ok category.2

/-- The members of an object with their values, the numbers being read by a
function. -/
def Json.valuedMembers (ofNumber : List Char → Value)
    (members : List (Text × Json)) : List (Text × Value) :=
  members.map fun member => (member.1, member.2.toValue ofNumber)

theorem Json.toPairs_eq_valuedMembers (ofNumber : List Char → Value)
    (members : List (Text × Json)) :
    toPairs ofNumber members = namedPairs (valuedMembers ofNumber members) := by
  induction members with
  | nil => rfl
  | cons member members ih =>
      rw [toPairs, ih]
      rfl

/-- The members of an object with their values in the place of documents. -/
def Json.decodedMembers (members : List (Text × Json)) :
    List (Text × Value) :=
  members.map fun member => (member.1, member.2.toValue numberLiteral)

theorem Json.toPairs_eq_namedPairs (members : List (Text × Json)) :
    toPairs numberLiteral members = namedPairs (decodedMembers members) :=
  toPairs_eq_valuedMembers numberLiteral members

theorem Dataset.listsEntries_iff_holdsCategory
    {members : List (Text × Json)} {dataset : Dataset} :
    List.Forall₂ ListsEntries (Json.decodedMembers members) dataset ↔
      List.Forall₂ HoldsCategory members dataset := by
  rw [Json.decodedMembers, List.forall₂_map_left_iff]
  rfl

/-- An object is the dataset of the categories that the kept members hold, and
of nothing else. -/
theorem Dataset.ofValue_object_iff {members : List (Text × Json)}
    {dataset : Dataset} :
    Dataset.ofValue ((Json.object members).toValue numberLiteral) =
        .ok dataset ↔
      List.Forall₂ HoldsCategory (Json.keptMembers members) dataset := by
  have distinct : ((Json.decodedMembers
      (Json.keptMembers members)).map Prod.fst).Nodup := by
    have names := Json.nodup_keptMembers members
    rw [Json.decodedMembers, List.map_map]
    exact names
  rw [Json.toValue_object, Json.toPairs_eq_namedPairs,
    ofValue_eq_ok_iff distinct, listsEntries_iff_holdsCategory]

theorem Dataset.holdsCategory_of_isCategory {members : List (Text × Json)}
    {categories : SpelledDataset}
    (areCategories : List.Forall₂ Json.IsCategory members categories) :
    ∃ dataset, List.Forall₂ HoldsCategory members dataset ∧
      Dataset.IsSpelled dataset categories := by
  induction areCategories with
  | nil => exact ⟨[], .nil, .nil⟩
  | @cons member category members categories head _ ih =>
      obtain ⟨entries, valid, spelled⟩ := entriesOf_of_isCategory head
      obtain ⟨dataset, holds, isSpelled⟩ := ih
      exact ⟨(member.1, entries) :: dataset, .cons ⟨rfl, valid⟩ holds,
        .cons spelled isSpelled⟩

/-- A document that describes categories is a dataset with these categories
and these spellings. -/
theorem Dataset.ofValue_of_describes {document : Json}
    {categories : SpelledDataset}
    (describes : document.Describes categories) :
    ∃ dataset,
      Dataset.ofValue (document.toValue numberLiteral) = .ok dataset ∧
      Dataset.IsSpelled dataset categories := by
  obtain ⟨members, rfl, areCategories, distinct⟩ := describes
  have sameNames : members.map Prod.fst = categories.map Prod.fst := by
    clear distinct
    induction areCategories with
    | nil => rfl
    | cons head _ ih => rw [List.map_cons, List.map_cons, head.1, ih]
  obtain ⟨dataset, holds, spelled⟩ :=
    Dataset.holdsCategory_of_isCategory areCategories
  refine ⟨dataset, Dataset.ofValue_object_iff.mpr ?_, spelled⟩
  rwa [Json.keptMembers_of_nodup (by rwa [sameNames])]

end Validation

section Bytes

theorem Dataset.isBlank_eq_false_of_mem {char : Char} {chars : List Char}
    (isMember : char ∈ chars)
    (noBlank : (CodePoint.scalar char).isBlank = false) :
    (Text.ofChars chars).isBlank = false := by
  rw [Text.isBlank, List.all_eq_false]
  exact ⟨_, List.mem_map_of_mem isMember, by simp [noBlank]⟩

theorem Json.isBlank_of_isDigit {char : Char} (digit : isDigit char = true) :
    (CodePoint.scalar char).isBlank = false := by
  simp only [isDigit, Bool.and_eq_true, decide_eq_true_eq] at digit
  have least : 0x30 ≤ (CodePoint.scalar char).value := digit.1
  have greatest : (CodePoint.scalar char).value ≤ 0x39 := digit.2
  generalize CodePoint.scalar char = codePoint at least greatest ⊢
  simp [CodePoint.isBlank]
  omega

/-- What spells a lexeme is more than white space. -/
theorem Json.exists_notBlank_of_spellsLexeme {lexeme : Lexeme}
    {spelling : List Char} (spelled : SpellsLexeme lexeme spelling) :
    ∃ char ∈ spelling, (CodePoint.scalar char).isBlank = false := by
  cases spelled with
  | number isNumber =>
      obtain ⟨_, integral, _, _, -, isIntegral, -, -, rfl⟩ := isNumber
      rcases isIntegral with rfl | ⟨⟨nonempty, digits⟩, -⟩
      · exact ⟨'0', by simp, by decide⟩
      · obtain ⟨digit, isMember⟩ := List.exists_mem_of_ne_nil _ nonempty
        exact ⟨digit, by simp [isMember],
          isBlank_of_isDigit (digits _ isMember)⟩
  | _ => exact ⟨_, List.mem_cons_self, by decide⟩

theorem Json.exists_notBlank_of_spellsLexemes {lexemes : List Lexeme}
    {chars : List Char} (spelled : SpellsLexemes lexemes chars)
    (nonempty : lexemes ≠ []) :
    ∃ char ∈ chars, (CodePoint.scalar char).isBlank = false := by
  cases spelled with
  | nil => exact absurd rfl nonempty
  | cons _ head _ =>
      obtain ⟨char, isMember, noBlank⟩ :=
        exists_notBlank_of_spellsLexeme head
      exact ⟨char, by simp [isMember], noBlank⟩

theorem Json.lexemes_ne_nil (document : Json) : document.lexemes ≠ [] := by
  cases document with
  | array items => cases items <;> simp [lexemes]
  | object members => cases members <;> simp [lexemes]
  | _ => simp [lexemes]

/-- Blank characters are refused, and others are read as a document whose
value is validated. -/
theorem Dataset.ofDocument_cases (document : List Char) :
    ((Text.ofChars document).isBlank = true ∧
      ofDocument document = .error (.document .blank)) ∨
    (∃ fault, Json.read nestingLimit document = .error fault ∧
      ofDocument document = .error (ContentFault.ofJson document fault)) ∨
    ∃ json, Json.read nestingLimit document = .ok json ∧
      ofDocument document =
        (Dataset.ofValue (json.toValue numberLiteral)).mapError
          fun fault => .document (.invalid fault) := by
  rw [ofDocument]
  cases blank : (Text.ofChars document).isBlank with
  | true => exact .inl ⟨rfl, rfl⟩
  | false =>
      cases read : Json.read nestingLimit document with
      | error fault => exact .inr (.inl ⟨fault, rfl, rfl⟩)
      | ok json => exact .inr (.inr ⟨json, rfl, rfl⟩)

/-- The bytes of a file in which a document is spelled hold the dataset of
the value of the document, whatever its spelling. -/
theorem Dataset.ofBytes_encodeChars {document : Json} {chars : List Char}
    (spelled : document.IsSpelledBy chars)
    (shallow : document.depth ≤ nestingLimit) :
    Dataset.ofBytes (Utf8.encodeChars chars) =
      (Dataset.ofValue (document.toValue numberLiteral)).mapError
        fun fault => .document (.invalid fault) := by
  have unified : document.IsSpelledBy (unifyNewlines chars) :=
    spelled.unifyNewlines
  obtain ⟨char, isMember, noBlank⟩ :=
    Json.exists_notBlank_of_spellsLexemes unified document.lexemes_ne_nil
  have notBlank := isBlank_eq_false_of_mem isMember noBlank
  have read := Json.read_of_isSpelledBy unified shallow
  rw [ofBytes, Utf8.decode_encodeChars]
  rcases ofDocument_cases (unifyNewlines chars) with
    ⟨blank, -⟩ | ⟨fault, refused, -⟩ | ⟨json, isRead, holds⟩
  · rw [notBlank] at blank
    cases blank
  · rw [read] at refused
    cases refused
  · rw [read] at isRead
    cases isRead
    exact holds

/-- The bytes of a file in which a document is spelled hold the dataset that
the document describes, whatever its spelling. -/
theorem Dataset.ofBytes_of_isSpelledBy {document : Json}
    {categories : SpelledDataset} {chars : List Char}
    (describes : document.Describes categories)
    (spelled : document.IsSpelledBy chars)
    (shallow : document.depth ≤ nestingLimit) :
    ∃ dataset, Dataset.ofBytes (Utf8.encodeChars chars) = .ok dataset ∧
      dataset.IsSpelled categories := by
  obtain ⟨dataset, valid, isSpelled⟩ :=
    Dataset.ofValue_of_describes describes
  refine ⟨dataset, ?_, isSpelled⟩
  rw [ofBytes_encodeChars spelled shallow, valid]
  rfl

end Bytes

end VestingContract
