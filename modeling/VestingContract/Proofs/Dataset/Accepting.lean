import VestingContract.Proofs.Dataset.Document
import VestingContract.Proofs.Json.Flattening
import VestingContract.Proofs.Run.Results

/-!
# Documents that are accepted

A document is accepted as a dataset only if it is an object whose kept members
hold arrays of objects with a literal in each field.  So the tokens of a
dataset that is read from a document can all be spelled, and its entries are
the objects that stand in the arrays of the kept members.
-/

namespace VestingContract

/-- Only an object whose kept members hold categories is a dataset. -/
theorem Dataset.holdsCategory_of_ofValue {document : Json} {dataset : Dataset}
    (accepted : Dataset.ofValue (document.toValue numberLiteral) =
      .ok dataset) :
    ∃ members, document = .object members ∧
      List.Forall₂ HoldsCategory (Json.keptMembers members) dataset := by
  cases document with
  | object members =>
      exact ⟨members, rfl, Dataset.ofValue_object_iff.mp accepted⟩
  | _ => cases accepted

section Spellings

theorem Token.exists_spelling {document : Json} {token : Token}
    (valid : Token.ofValue (document.toValue numberLiteral) = .ok token) :
    ∃ spelling, token.spell = .ok spelling := by
  cases document with
  | bool truth =>
      cases valid
      exact ⟨_, rfl⟩
  | number lexeme =>
      cases valid
      exact ⟨_, rfl⟩
  | text content =>
      cases valid
      exact ⟨_, rfl⟩
  | _ => cases valid

theorem Json.exists_of_lookup? {ofNumber : List Char → Value}
    {members : List (Text × Json)} {name : Text} {value : Value}
    (found : Value.lookup? name (toPairs ofNumber members) = some value) :
    ∃ member : Json, value = member.toValue ofNumber := by
  induction members with
  | nil => cases found
  | cons member members ih =>
      rw [toPairs, Value.lookup?] at found
      split at found
      · cases found
        exact ⟨member.2, rfl⟩
      · exact ih found

theorem Entry.exists_spelling_of_field {members : List (Text × Json)}
    {name : Text} {token : Token}
    (read : field (Json.toPairs numberLiteral members) name = .ok token) :
    ∃ spelling, token.spell = .ok spelling := by
  rw [field] at read
  split at read
  · cases read
  · next found =>
      obtain ⟨member, rfl⟩ := Json.exists_of_lookup? found
      exact Token.exists_spelling read

/-- An entry that is read from a document is an object, and its tokens have
spellings. -/
theorem Entry.isSpelled_of_ofValue {item : Json} {entry : Entry}
    (valid : Entry.ofValue (item.toValue numberLiteral) = .ok entry) :
    (∃ members, item = .object members) ∧
      ∃ arguments, entry.IsSpelled arguments := by
  cases item with
  | object members =>
      refine ⟨⟨members, rfl⟩, ?_⟩
      rw [Json.toValue_object, ofValue] at valid
      split at valid
      · next isEntry =>
          cases valid
          obtain ⟨address, amountAtStart, amountAtEnd, startDate, endDate⟩ :=
            ofFields?_eq_some_iff.mp isEntry
          obtain ⟨first, firstSpelled⟩ := exists_spelling_of_field address
          obtain ⟨second, secondSpelled⟩ :=
            exists_spelling_of_field amountAtStart
          obtain ⟨third, thirdSpelled⟩ := exists_spelling_of_field amountAtEnd
          obtain ⟨fourth, fourthSpelled⟩ := exists_spelling_of_field startDate
          obtain ⟨fifth, fifthSpelled⟩ := exists_spelling_of_field endDate
          exact ⟨⟨first, third, second, fourth, fifth⟩, firstSpelled,
            thirdSpelled, secondSpelled, fourthSpelled, fifthSpelled⟩
      · cases valid
  | _ => cases valid

theorem Entry.isSpelled_of_ofValues {items : List Json} {position : Nat}
    {entries : List Entry}
    (valid : Entry.ofValues position (items.map (Json.toValue numberLiteral)) =
      .ok entries) :
    ∃ arguments, List.Forall₂ Entry.IsSpelled entries arguments ∧
      (Json.array items).entryCount = arguments.length := by
  induction items generalizing position entries with
  | nil =>
      cases valid
      exact ⟨[], .nil, rfl⟩
  | cons item items ih =>
      rw [List.map_cons, ofValues] at valid
      split at valid
      · next entry rest first later =>
          cases valid
          obtain ⟨⟨members, rfl⟩, arguments, spelled⟩ :=
            isSpelled_of_ofValue first
          obtain ⟨others, spelledRest, count⟩ := ih later
          refine ⟨arguments :: others, .cons spelled spelledRest, ?_⟩
          rw [Json.entryCount, List.countP_cons] at *
          simp [count]
      · cases valid

/-- The entries of a category are the objects in the array of its member. -/
theorem isSpelledCategory_of_holdsCategory {member : Text × Json}
    {category : Text × List Entry} (holds : HoldsCategory member category) :
    ∃ spelled, IsSpelledCategory category spelled ∧
      member.1 = spelled.1 ∧ member.2.entryCount = spelled.2.length := by
  obtain ⟨name, member⟩ := member
  obtain ⟨sameName, valid⟩ := holds
  cases member with
  | array items =>
      rw [Json.toValue, Json.toValues_eq_map] at valid
      obtain ⟨arguments, spelled, count⟩ :=
        Entry.isSpelled_of_ofValues valid
      exact ⟨(category.1, arguments), ⟨rfl, spelled⟩, sameName, count⟩
  | object members =>
      rw [Json.toValue_object] at valid
      cases valid
  | _ => cases valid

/-- A member gives a category its name and as many arguments as it has
entries. -/
def GivesCategory (member : Text × Json)
    (category : Text × List PushArguments) : Prop :=
  member.1 = category.1 ∧ member.2.entryCount = category.2.length

theorem Dataset.isSpelled_of_holdsCategory {members : List (Text × Json)}
    {dataset : Dataset}
    (holds : List.Forall₂ HoldsCategory members dataset) :
    ∃ categories : SpelledDataset, dataset.IsSpelled categories ∧
      List.Forall₂ GivesCategory members categories := by
  induction holds with
  | nil => exact ⟨[], .nil, .nil⟩
  | cons head _ ih =>
      obtain ⟨spelled, isSpelled, same⟩ :=
        isSpelledCategory_of_holdsCategory head
      obtain ⟨categories, areSpelled, given⟩ := ih
      exact ⟨spelled :: categories, .cons isSpelled areSpelled,
        .cons same given⟩

/-- Categories that members give have their names, and as many arguments as
there are entries in the members. -/
theorem SpelledDataset.of_givesCategory {members : List (Text × Json)}
    {categories : SpelledDataset}
    (given : List.Forall₂ GivesCategory members categories) :
    categories.map Prod.fst = members.map Prod.fst ∧
      categories.size = Json.writtenEntries members ∧
      ∀ category ∈ categories, ∃ member ∈ members,
        GivesCategory member category := by
  induction given with
  | nil => exact ⟨rfl, rfl, by simp⟩
  | cons head _ ih =>
      obtain ⟨sameNames, count, gives⟩ := ih
      refine ⟨?_, ?_, ?_⟩
      · rw [List.map_cons, List.map_cons, head.1, sameNames]
      · simp only [size, Json.writtenEntries, List.map_cons,
          List.sum_cons] at count ⊢
        rw [count, head.2]
      · simp only [List.mem_cons, forall_eq_or_imp, exists_eq_or_imp]
        exact ⟨.inl head, fun category isLater =>
          .inr (gives category isLater)⟩

/-- The bytes of a dataset spell an object whose kept members give the
categories of the dataset. -/
theorem Dataset.isSpelled_of_ofBytes {content : List UInt8}
    {dataset : Dataset} (accepted : Dataset.ofBytes content = .ok dataset) :
    ∃ chars members categories,
      Utf8.decode content = .ok chars ∧
      (Json.lex (unifyNewlines chars)).map Prod.snd =
        (Json.object members).lexemes ∧
      dataset.IsSpelled categories ∧
      List.Forall₂ GivesCategory (Json.keptMembers members) categories := by
  rw [ofBytes] at accepted
  split at accepted
  · cases accepted
  · next chars decoded =>
      rw [ofDocument] at accepted
      split at accepted
      · cases accepted
      · obtain ⟨document, read, holds⟩ := exists_of_bind_eq_ok accepted
        obtain ⟨members, rfl, given⟩ :=
          holdsCategory_of_ofValue (eq_ok_of_mapError holds)
        obtain ⟨categories, spelled, gives⟩ :=
          isSpelled_of_holdsCategory given
        exact ⟨chars, members, categories, decoded,
          (Json.lexemes_of_read (eq_ok_of_mapError read)).symm, spelled,
          gives⟩

end Spellings

end VestingContract
