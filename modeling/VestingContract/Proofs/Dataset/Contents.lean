import VestingContract.Proofs.Dataset.Accepting
import VestingContract.Proofs.Number.Wholes

/-!
# Contents of documents

What a document contains, told without decoding its numbers: the categories of
the kept members with the texts of the literals in their entries.  Whether the
numbers of a document are kept as texts or read as integers that are spelled
alike, its value is a dataset just if it has contents, and the dataset is
spelled by these.
-/

namespace VestingContract

/-- A result that is related to what is expected, or fails where nothing
is. -/
inductive Yields {ε α β : Type} (relation : α → β → Prop) :
    Except ε α → Option β → Prop
  | some {value : α} {expected : β} (related : relation value expected) :
      Yields relation (.ok value) (some expected)
  | none (fault : ε) : Yields relation (.error fault) none

theorem Yields.cases {ε α β : Type} {relation : α → β → Prop}
    {result : Except ε α} {expected : Option β}
    (yields : Yields relation result expected) :
    (∃ fault, result = .error fault ∧ expected = .none) ∨
      ∃ value other, result = .ok value ∧ expected = .some other ∧
        relation value other := by
  cases yields with
  | some related => exact .inr ⟨_, _, rfl, rfl, related⟩
  | none fault => exact .inl ⟨fault, rfl, rfl⟩

/-- A number that is spelled by a text. -/
def Value.IsNumberOf (spelling : Text) (value : Value) : Prop :=
  value = literal spelling ∨
    ∃ whole, spellWhole whole = .ok spelling ∧ value = int whole

namespace Json

mutual

/-- The numbers in a document. -/
def numbers : Json → List (List Char)
  | number lexeme => [lexeme]
  | array items => itemsNumbers items
  | object members => membersNumbers members
  | _ => []

/-- The numbers in items. -/
def itemsNumbers : List Json → List (List Char)
  | [] => []
  | item :: items => item.numbers ++ itemsNumbers items

/-- The numbers in members. -/
def membersNumbers : List (Text × Json) → List (List Char)
  | [] => []
  | (_, member) :: members => member.numbers ++ membersNumbers members

end

/-- Numbers are decoded to values that are spelled as they are written. -/
def KeepsNumbers (ofNumber : List Char → Value) (document : Json) : Prop :=
  ∀ lexeme ∈ document.numbers,
    (ofNumber lexeme).IsNumberOf (Text.ofChars lexeme)

/-- The text of the literal under a name. -/
def fieldText? (members : List (Text × Json)) (name : Text) : Option Text :=
  (members.find? fun member => member.1 = name).bind fun member =>
    member.2.literalText?

/-- The arguments of an entry, as its fields spell them. -/
def arguments? : Json → Option PushArguments
  | object members => do
      let kept := keptMembers members
      let address ← fieldText? kept "address"
      let amountAtStart ← fieldText? kept "allocationAtStartDate"
      let amountAtEnd ← fieldText? kept "allocationAtEndDate"
      let startDate ← fieldText? kept "startDate"
      let endDate ← fieldText? kept "endDate"
      return ⟨address, amountAtEnd, amountAtStart, startDate, endDate⟩
  | _ => none

/-- The arguments of the entries of a category. -/
def entryList? : Json → Option (List PushArguments)
  | array items => items.mapM arguments?
  | _ => none

/-- The categories of members with the arguments of their entries. -/
def categories? (members : List (Text × Json)) : Option SpelledDataset :=
  members.mapM fun member =>
    member.2.entryList?.map fun entries => (member.1, entries)

/-- The categories of a document. -/
def contents? : Json → Option SpelledDataset
  | object members => categories? (keptMembers members)
  | _ => none

section Numbers

variable {ofNumber : List Char → Value}

theorem itemsNumbers_eq_flatMap (items : List Json) :
    itemsNumbers items = items.flatMap numbers := by
  induction items with
  | nil => rfl
  | cons item items ih => rw [itemsNumbers, ih, List.flatMap_cons]

theorem membersNumbers_eq_flatMap (members : List (Text × Json)) :
    membersNumbers members = members.flatMap fun member =>
      member.2.numbers := by
  induction members with
  | nil => rfl
  | cons member members ih => rw [membersNumbers, ih, List.flatMap_cons]

theorem keepsNumbers_numberLiteral (document : Json) :
    KeepsNumbers numberLiteral document :=
  fun _ _ => .inl rfl

theorem KeepsNumbers.of_number {lexeme : List Char}
    (keeps : KeepsNumbers ofNumber (number lexeme)) :
    ((number lexeme).toValue ofNumber).IsNumberOf (Text.ofChars lexeme) :=
  keeps lexeme List.mem_cons_self

theorem numbers_subset_of_item {items : List Json} {item : Json}
    (isItem : item ∈ items) : item.numbers ⊆ (array items).numbers := by
  intro lexeme isNumber
  rw [numbers, itemsNumbers_eq_flatMap]
  exact List.mem_flatMap.mpr ⟨item, isItem, isNumber⟩

theorem numbers_subset_of_kept {members : List (Text × Json)}
    {member : Text × Json} (isKept : member ∈ keptMembers members) :
    member.2.numbers ⊆ (object members).numbers := by
  intro lexeme isNumber
  rw [numbers, membersNumbers_eq_flatMap]
  obtain ⟨before, after, rfl, -⟩ := mem_keptMembers.mp isKept
  exact List.mem_flatMap.mpr ⟨member, by simp, isNumber⟩

theorem KeepsNumbers.of_item {items : List Json}
    (keeps : KeepsNumbers ofNumber (array items)) :
    ∀ item ∈ items, KeepsNumbers ofNumber item :=
  fun _ isItem _ isNumber => keeps _ (numbers_subset_of_item isItem isNumber)

theorem KeepsNumbers.of_kept {members : List (Text × Json)}
    (keeps : KeepsNumbers ofNumber (object members)) :
    ∀ member ∈ keptMembers members, KeepsNumbers ofNumber member.2 :=
  fun _ isKept _ isNumber => keeps _ (numbers_subset_of_kept isKept isNumber)

theorem lookup?_toPairs (members : List (Text × Json)) (name : Text) :
    Value.lookup? name (toPairs ofNumber members) =
      (members.find? fun member => member.1 = name).map fun member =>
        member.2.toValue ofNumber := by
  induction members with
  | nil => rfl
  | cons member members ih =>
      rw [toPairs, Value.lookup?, List.find?_cons]
      by_cases isFound : member.1 = name <;> simp [isFound, ih]

end Numbers

end Json

section Decoding

variable {ofNumber : List Char → Value}

theorem Token.yields_ofValue {document : Json}
    (keeps : document.KeepsNumbers ofNumber) :
    Yields (fun token spelling => token.spell = .ok spelling)
      (Token.ofValue (document.toValue ofNumber)) document.literalText? := by
  cases document with
  | number lexeme =>
      rcases keeps.of_number with value | ⟨_, spelled, value⟩ <;> rw [value]
      · exact .some rfl
      · exact .some spelled
  | bool truth => exact .some rfl
  | text content => exact .some rfl
  | _ => exact .none _

theorem Entry.yields_field {members : List (Text × Json)}
    (keeps : ∀ member ∈ members, member.2.KeepsNumbers ofNumber)
    (name : Text) :
    Yields (fun token spelling => token.spell = .ok spelling)
      (Entry.field (Json.toPairs ofNumber members) name)
      (Json.fieldText? members name) := by
  rw [Entry.field, Json.lookup?_toPairs, Json.fieldText?]
  cases found : members.find? fun member => member.1 = name with
  | none => exact .none _
  | some member =>
      exact Token.yields_ofValue (keeps member (List.mem_of_find?_eq_some found))

theorem Entry.yields_ofValue {item : Json}
    (keeps : item.KeepsNumbers ofNumber) :
    Yields Entry.IsSpelled (Entry.ofValue (item.toValue ofNumber))
      item.arguments? := by
  cases item with
  | object members =>
      have field := yields_field keeps.of_kept
      have address := field "address"
      have amountAtStart := field "allocationAtStartDate"
      have amountAtEnd := field "allocationAtEndDate"
      have startDate := field "startDate"
      have endDate := field "endDate"
      simp only [Json.toValue_object, Entry.ofValue, ofFields?, fieldNames,
        List.map_cons, List.map_nil, Json.arguments?]
      -- The first field without a literal decides that there is no entry.
      rcases address.cases with ⟨_, none, noText⟩ | ⟨_, _, is₁, text₁, first⟩
      · simp only [none, noText]
        exact .none _
      rcases amountAtStart.cases with
        ⟨_, none, noText⟩ | ⟨_, _, is₂, text₂, second⟩
      · simp only [is₁, text₁, none, noText]
        exact .none _
      rcases amountAtEnd.cases with
        ⟨_, none, noText⟩ | ⟨_, _, is₃, text₃, third⟩
      · simp only [is₁, text₁, is₂, text₂, none, noText]
        exact .none _
      rcases startDate.cases with
        ⟨_, none, noText⟩ | ⟨_, _, is₄, text₄, fourth⟩
      · simp only [is₁, text₁, is₂, text₂, is₃, text₃, none, noText]
        exact .none _
      rcases endDate.cases with ⟨_, none, noText⟩ | ⟨_, _, is₅, text₅, fifth⟩
      · simp only [is₁, text₁, is₂, text₂, is₃, text₃, is₄, text₄, none,
          noText]
        exact .none _
      simp only [is₁, text₁, is₂, text₂, is₃, text₃, is₄, text₄, is₅, text₅]
      exact .some ⟨first, third, second, fourth, fifth⟩
  | number lexeme =>
      rcases keeps.of_number with value | ⟨_, -, value⟩ <;>
        rw [value] <;>
        exact .none _
  | _ => exact .none _

theorem Entry.yields_ofValues {items : List Json}
    (keeps : ∀ item ∈ items, item.KeepsNumbers ofNumber) (position : Nat) :
    Yields (List.Forall₂ Entry.IsSpelled)
      (Entry.ofValues position (items.map (Json.toValue ofNumber)))
      (items.mapM Json.arguments?) := by
  induction items generalizing position with
  | nil => exact .some .nil
  | cons item items ih =>
      obtain ⟨first, later⟩ := List.forall_mem_cons.mp keeps
      rw [List.map_cons, Entry.ofValues, List.mapM_cons]
      rcases (yields_ofValue first).cases with
        ⟨_, none, noArguments⟩ | ⟨_, _, isEntry, arguments, spelled⟩
      · simp only [none, noArguments]
        exact .none _
      rcases (ih later (position + 1)).cases with
        ⟨_, none, noArguments⟩ | ⟨_, _, areEntries, others, areSpelled⟩
      · simp only [isEntry, arguments, none, noArguments]
        exact .none _
      simp only [isEntry, arguments, areEntries, others]
      exact .some (.cons spelled areSpelled)

theorem yields_entriesOf {member : Json}
    (keeps : member.KeepsNumbers ofNumber) :
    Yields (List.Forall₂ Entry.IsSpelled)
      (entriesOf (member.toValue ofNumber)) member.entryList? := by
  cases member with
  | array items =>
      rw [Json.toValue, Json.toValues_eq_map, entriesOf, Value.listed?]
      exact Entry.yields_ofValues keeps.of_item 0
  | number lexeme =>
      rcases keeps.of_number with value | ⟨_, -, value⟩ <;>
        rw [value] <;>
        exact .none _
  | _ => exact .none _

/-- Members list entries just if each of them has contents. -/
theorem Dataset.listsEntries_cases {members : List (Text × Json)}
    (keeps : ∀ member ∈ members, member.2.KeepsNumbers ofNumber) :
    (Json.categories? members = none ∧
      ¬ ∃ dataset, List.Forall₂ ListsEntries
        (Json.valuedMembers ofNumber members) dataset) ∨
    ∃ dataset categories, Json.categories? members = some categories ∧
      List.Forall₂ ListsEntries (Json.valuedMembers ofNumber members)
        dataset ∧ Dataset.IsSpelled dataset categories := by
  induction members with
  | nil => exact .inr ⟨[], [], rfl, .nil, .nil⟩
  | cons member members ih =>
      obtain ⟨first, later⟩ := List.forall_mem_cons.mp keeps
      rw [Json.categories?, List.mapM_cons, Json.valuedMembers, List.map_cons]
      rcases (yields_entriesOf first).cases with
        ⟨_, none, noEntries⟩ | ⟨_, _, valid, entries, spelled⟩
      · refine .inl ⟨by simp only [noEntries]; rfl, ?_⟩
        rintro ⟨dataset, lists⟩
        obtain ⟨_, _, ⟨-, valid⟩, -, -⟩ :=
          List.forall₂_cons_left_iff.mp lists
        rw [none] at valid
        cases valid
      rcases ih later with ⟨none, noDataset⟩ |
        ⟨dataset, categories, isSome, lists, areSpelled⟩
      · rw [Json.categories?] at none
        refine .inl ⟨by simp only [entries, none]; rfl, ?_⟩
        rintro ⟨dataset, lists⟩
        obtain ⟨_, others, -, listsOthers, -⟩ :=
          List.forall₂_cons_left_iff.mp lists
        exact noDataset ⟨others, listsOthers⟩
      · rw [Json.categories?] at isSome
        refine .inr ⟨(member.1, _) :: dataset, (member.1, _) :: categories,
          by simp only [entries, isSome]; rfl, .cons ⟨rfl, valid⟩ lists,
          .cons ⟨rfl, spelled⟩ areSpelled⟩

/-- However the numbers of a document are decoded, if only they are spelled as
they are written, its value is the dataset of its contents, or none if it has
no contents. -/
theorem Dataset.yields_ofValue {document : Json}
    (keeps : document.KeepsNumbers ofNumber) :
    Yields Dataset.IsSpelled
      (Dataset.ofValue (document.toValue ofNumber)) document.contents? := by
  cases document with
  | object members =>
      have distinct : ((Json.valuedMembers ofNumber
          (Json.keptMembers members)).map Prod.fst).Nodup := by
        rw [Json.valuedMembers, List.map_map]
        exact Json.nodup_keptMembers members
      rw [Json.toValue_object, Json.toPairs_eq_valuedMembers, Json.contents?]
      rcases listsEntries_cases keeps.of_kept with
        ⟨none, noDataset⟩ | ⟨dataset, categories, isSome, lists, spelled⟩
      · rw [none]
        cases valid : Dataset.ofValue (.map (namedPairs
            (Json.valuedMembers ofNumber (Json.keptMembers members)))) with
        | error fault => exact .none fault
        | ok dataset =>
            have lists := (ofValue_eq_ok_iff distinct).mp valid
            exact absurd ⟨dataset, lists⟩ noDataset
      · rw [isSome, (ofValue_eq_ok_iff distinct).mpr lists]
        exact .some spelled
  | number lexeme =>
      rcases keeps.of_number with value | ⟨_, -, value⟩ <;>
        rw [value] <;>
        exact .none _
  | _ => exact .none _

end Decoding

end VestingContract
