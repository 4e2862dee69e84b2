import VestingContract.Proofs.Dataset.Categories

/-!
# The format of datasets

Which values are datasets, told without the validation.  A dataset is a
mapping of names to lists of records in which each of the five names of the
fields leads to a literal.  It has the categories of the mapping in order, the
entries of each list in order, and in each field the token of the literal
under its name, whatever else a record holds.
-/

namespace VestingContract

/-- A text of characters only. -/
def Text.IsWhole (text : Text) : Prop :=
  ∃ chars, text = ofChars chars

namespace Value

/-- Values that a document can hold, with numbers as a caller may have
decoded them.  A mapping has different texts as keys. -/
inductive IsJsonLike : Value → Prop
  | null : IsJsonLike null
  | bool (truth : Bool) : IsJsonLike (bool truth)
  | int (whole : Int) : IsJsonLike (int whole)
  | float (double : Binary64) : IsJsonLike (float double)
  | decimal (number : Decimal) : IsJsonLike (decimal number)
  | literal (lexeme : Text) : IsJsonLike (literal lexeme)
  | text {content : Text} (whole : content.IsWhole) : IsJsonLike (text content)
  | list {items : List Value} (all : ∀ item ∈ items, IsJsonLike item) :
      IsJsonLike (list items)
  | map {members : List (Text × Value)}
      (distinct : (members.map Prod.fst).Nodup)
      (whole : ∀ member ∈ members, member.1.IsWhole)
      (all : ∀ member ∈ members, IsJsonLike member.2) :
      IsJsonLike (map (namedPairs members))

/-- A literal and its token.  Numbers that have lost their spelling get the
one that they are shown with, if they are finite. -/
inductive GivesToken : Value → Token → Prop
  | bool (truth : Bool) : GivesToken (bool truth) (.bool truth)
  | int (whole : Int) : GivesToken (int whole) (.int whole)
  | text (content : Text) : GivesToken (text content) (.text content)
  | literal (lexeme : Text) : GivesToken (literal lexeme) (.number lexeme)
  | float {double : Binary64} (finite : double.isFinite = true) :
      GivesToken (float double) (.number double.toText)
  | decimal {number : Decimal} (finite : number.isFinite = true) :
      GivesToken (decimal number) (.number number.toText)

/-- A name among members leads to the literal of a token. -/
def GivesField (members : List (Text × Value)) (name : Text) (token : Token) :
    Prop :=
  ∃ value, (name, value) ∈ members ∧ value.GivesToken token

/-- A record and its entry. -/
def GivesEntry (item : Value) (entry : Entry) : Prop :=
  ∃ members, item = map (namedPairs members) ∧
    GivesField members "address" entry.address ∧
    GivesField members "allocationAtStartDate" entry.amountAtStart ∧
    GivesField members "allocationAtEndDate" entry.amountAtEnd ∧
    GivesField members "startDate" entry.startDate ∧
    GivesField members "endDate" entry.endDate

/-- A list and the entries of its records in order. -/
def GivesEntries (value : Value) (entries : List Entry) : Prop :=
  ∃ items, value = list items ∧ List.Forall₂ GivesEntry items entries

/-- A member of a mapping and its category. -/
def GivesMember (member : Text × Value) (category : Text × List Entry) :
    Prop :=
  member.1 = category.1 ∧ member.2.GivesEntries category.2

/-- A mapping and its categories in order. -/
def GivesDataset (value : Value) (dataset : Dataset) : Prop :=
  ∃ members, value = map (namedPairs members) ∧
    List.Forall₂ GivesMember members dataset

/-- A mapping in which the name of every field leads to a literal. -/
def IsRecord (item : Value) : Prop :=
  ∃ members, item = map (namedPairs members) ∧
    ∀ name ∈ Entry.fieldNames, ∃ value token,
      (name, value) ∈ members ∧ value.GivesToken token

/-- A mapping whose members are lists of records. -/
def HasFormat (value : Value) : Prop :=
  ∃ members, value = map (namedPairs members) ∧
    ∀ member ∈ members, ∃ items, member.2 = list items ∧
      ∀ item ∈ items, item.IsRecord

end Value

section Fields

variable {members : List (Text × Value)}

theorem Token.ofValue_eq_ok_iff {value : Value} {token : Token} :
    Token.ofValue value = .ok token ↔ value.GivesToken token := by
  constructor
  · intro valid
    unfold Token.ofValue at valid
    split at valid
    · cases valid; exact .bool _
    · cases valid; exact .int _
    · cases valid; exact .text _
    · cases valid; exact .literal _
    · split at valid
      · next finite => cases valid; exact .float finite
      · cases valid
    · split at valid
      · next finite => cases valid; exact .decimal finite
      · cases valid
    · cases valid
  · intro gives
    cases gives with
    | float finite => exact if_pos finite
    | decimal finite => exact if_pos finite
    | _ => rfl

theorem Value.lookup?_namedPairs (distinct : (members.map Prod.fst).Nodup)
    {name : Text} {value : Value} :
    lookup? name (namedPairs members) = some value ↔
      (name, value) ∈ members := by
  induction members with
  | nil => simp [namedPairs, lookup?]
  | cons member members ih =>
      obtain ⟨found, first⟩ := member
      obtain ⟨absent, others⟩ := List.nodup_cons.mp distinct
      rw [namedPairs, List.map_cons, lookup?, List.mem_cons]
      by_cases isFound : found = name
      · subst isFound
        have notLater : (found, value) ∉ members := fun later =>
          absent (List.mem_map.mpr ⟨_, later, rfl⟩)
        simp [notLater, eq_comm]
      · rw [if_neg isFound]
        have notFirst : (name, value) ≠ (found, first) := fun same =>
          isFound (congrArg Prod.fst same).symm
        simpa [notFirst, namedPairs] using ih others

theorem Entry.field_namedPairs (distinct : (members.map Prod.fst).Nodup)
    {name : Text} {token : Token} :
    field (namedPairs members) name = .ok token ↔
      Value.GivesField members name token := by
  rw [field]
  split
  · next absent =>
      refine ⟨nofun, fun ⟨value, isMember, _⟩ => ?_⟩
      rw [(Value.lookup?_namedPairs distinct).mpr isMember] at absent
      cases absent
  · next value found =>
      have isMember := (Value.lookup?_namedPairs distinct).mp found
      rw [Token.ofValue_eq_ok_iff]
      refine ⟨fun gives => ⟨value, isMember, gives⟩, ?_⟩
      rintro ⟨other, isOther, gives⟩
      rw [(Value.lookup?_namedPairs distinct).mpr isOther] at found
      cases found
      exact gives

end Fields

section Parts

theorem namedPairs_injective : Function.Injective namedPairs :=
  List.map_injective_iff.mpr fun first second same => by
    cases first
    cases second
    simpa using same

theorem Value.IsJsonLike.of_map {members : List (Text × Value)}
    (like : (Value.map (namedPairs members)).IsJsonLike) :
    (members.map Prod.fst).Nodup ∧
      (∀ member ∈ members, member.1.IsWhole) ∧
      ∀ member ∈ members, member.2.IsJsonLike := by
  generalize isMap : Value.map (namedPairs members) = value at like
  cases like with
  | map distinct whole all =>
      obtain rfl := namedPairs_injective (Value.map.inj isMap)
      exact ⟨distinct, whole, all⟩
  | _ => cases isMap

theorem Value.IsJsonLike.of_list {items : List Value}
    (like : (Value.list items).IsJsonLike) :
    ∀ item ∈ items, item.IsJsonLike := by
  cases like with
  | list all => exact all

theorem Entry.ofValue_eq_ok_iff {item : Value} (like : item.IsJsonLike)
    {entry : Entry} :
    Entry.ofValue item = .ok entry ↔ item.GivesEntry entry := by
  cases like with
  | @map members distinct =>
      have reads : Entry.ofValue (.map (namedPairs members)) = .ok entry ↔
          ofFields? (namedPairs members) = some entry := by
        rw [Entry.ofValue]
        split
        · next read => simp [read]
        · next unread => simp [unread]
      rw [reads, ofFields?_eq_some_iff]
      simp only [field_namedPairs distinct, Value.GivesEntry,
        Value.map.injEq, namedPairs_injective.eq_iff, exists_eq_left']
  | _ => exact ⟨nofun, fun ⟨_, isMap, _⟩ => nomatch isMap⟩

theorem Entry.ofValues_eq_ok_iff {items : List Value}
    (like : ∀ item ∈ items, item.IsJsonLike) {position : Nat}
    {entries : List Entry} :
    Entry.ofValues position items = .ok entries ↔
      List.Forall₂ Value.GivesEntry items entries := by
  induction items generalizing position entries with
  | nil => simp [Entry.ofValues, eq_comm]
  | cons item items ih =>
      obtain ⟨first, later⟩ := List.forall_mem_cons.mp like
      rw [Entry.ofValues, List.forall₂_cons_left_iff]
      constructor
      · intro valid
        split at valid
        · next entry rest isEntry areEntries =>
            cases valid
            exact ⟨entry, rest, (ofValue_eq_ok_iff first).mp isEntry,
              (ih later).mp areEntries, rfl⟩
        · cases valid
      · rintro ⟨entry, rest, gives, givesRest, rfl⟩
        rw [(ofValue_eq_ok_iff first).mpr gives, (ih later).mpr givesRest]

theorem entriesOf_eq_ok_iff {value : Value} (like : value.IsJsonLike)
    {entries : List Entry} :
    entriesOf value = .ok entries ↔ value.GivesEntries entries := by
  cases like with
  | @list items all =>
      rw [entriesOf, Value.listed?]
      simp only [Entry.ofValues_eq_ok_iff all, Value.GivesEntries,
        Value.list.injEq, exists_eq_left']
  | _ => exact ⟨nofun, fun ⟨_, isList, _⟩ => nomatch isList⟩

theorem Dataset.ofValue_eq_ok_iff_givesDataset {value : Value}
    (like : value.IsJsonLike) {dataset : Dataset} :
    Dataset.ofValue value = .ok dataset ↔ value.GivesDataset dataset := by
  cases like with
  | @map members distinct whole all =>
      rw [Dataset.ofValue_eq_ok_iff distinct]
      simp only [Value.GivesDataset, Value.map.injEq,
        namedPairs_injective.eq_iff, exists_eq_left']
      clear distinct whole
      induction members generalizing dataset with
      | nil => simp
      | cons member members ih =>
          obtain ⟨first, later⟩ := List.forall_mem_cons.mp all
          simp only [List.forall₂_cons_left_iff, ListsEntries,
            Value.GivesMember, entriesOf_eq_ok_iff first, ih later]
  | _ => exact ⟨nofun, fun ⟨_, isMap, _⟩ => nomatch isMap⟩

end Parts

section Format

/-- A list is related to another one just if each of its items is related to
some value. -/
theorem exists_forall₂_iff {α β : Type} {relation : α → β → Prop}
    {items : List α} :
    (∃ others, List.Forall₂ relation items others) ↔
      ∀ item ∈ items, ∃ other, relation item other := by
  induction items with
  | nil => simp
  | cons item items ih =>
      rw [List.forall_mem_cons, ← ih]
      constructor
      · rintro ⟨_, related⟩
        obtain ⟨other, others, head, rest, -⟩ :=
          List.forall₂_cons_left_iff.mp related
        exact ⟨⟨other, head⟩, others, rest⟩
      · rintro ⟨⟨other, head⟩, others, rest⟩
        exact ⟨other :: others, .cons head rest⟩

theorem Value.isRecord_iff {item : Value} :
    item.IsRecord ↔ ∃ entry, item.GivesEntry entry := by
  constructor
  · rintro ⟨members, rfl, fields⟩
    simp only [Entry.fieldNames, List.forall_mem_cons] at fields
    obtain ⟨⟨_, first, gives₁⟩, ⟨_, second, gives₂⟩, ⟨_, third, gives₃⟩,
      ⟨_, fourth, gives₄⟩, ⟨_, fifth, gives₅⟩, -⟩ := fields
    exact ⟨⟨first, second, third, fourth, fifth⟩, members, rfl,
      ⟨_, gives₁⟩, ⟨_, gives₂⟩, ⟨_, gives₃⟩, ⟨_, gives₄⟩, ⟨_, gives₅⟩⟩
  · rintro ⟨entry, members, rfl, ⟨_, first⟩, ⟨_, second⟩, ⟨_, third⟩,
      ⟨_, fourth⟩, ⟨_, fifth⟩⟩
    refine ⟨members, rfl, ?_⟩
    simp only [Entry.fieldNames, List.forall_mem_cons]
    exact ⟨⟨_, _, first⟩, ⟨_, _, second⟩, ⟨_, _, third⟩, ⟨_, _, fourth⟩,
      ⟨_, _, fifth⟩, by simp⟩

theorem Value.hasFormat_iff {value : Value} :
    value.HasFormat ↔ ∃ dataset, value.GivesDataset dataset := by
  have ofMember : ∀ member : Text × Value,
      (∃ items, member.2 = list items ∧ ∀ item ∈ items, item.IsRecord) ↔
        ∃ category, GivesMember member category := by
    intro member
    simp only [isRecord_iff, ← exists_forall₂_iff]
    constructor
    · rintro ⟨items, isList, entries, gives⟩
      exact ⟨(member.1, entries), rfl, items, isList, gives⟩
    · rintro ⟨category, -, items, isList, gives⟩
      exact ⟨items, isList, category.2, gives⟩
  simp only [HasFormat, GivesDataset, ofMember, ← exists_forall₂_iff]
  constructor
  · rintro ⟨members, isMap, dataset, gives⟩
    exact ⟨dataset, members, isMap, gives⟩
  · rintro ⟨dataset, members, isMap, gives⟩
    exact ⟨members, isMap, dataset, gives⟩

/-- A value like those of documents is a dataset just if it has the format of
one.  It is the dataset that it gives and no other one, and without the format
there is a fault. -/
theorem Dataset.ofValue_of_isJsonLike {value : Value}
    (like : value.IsJsonLike) :
    (∀ dataset, Dataset.ofValue value = .ok dataset ↔
      value.GivesDataset dataset) ∧
    (value.HasFormat → ∃ dataset, Dataset.ofValue value = .ok dataset) ∧
    (¬ value.HasFormat → ∃ fault, Dataset.ofValue value = .error fault) := by
  have given : ∀ dataset, Dataset.ofValue value = .ok dataset ↔
      value.GivesDataset dataset := fun dataset =>
    Dataset.ofValue_eq_ok_iff_givesDataset like
  refine ⟨given, fun format => ?_, fun noFormat => ?_⟩
  · obtain ⟨dataset, gives⟩ := Value.hasFormat_iff.mp format
    exact ⟨dataset, (given dataset).mpr gives⟩
  · cases ofValue : Dataset.ofValue value with
    | error fault => exact ⟨fault, rfl⟩
    | ok dataset =>
        have gives := (given dataset).mp ofValue
        exact absurd (Value.hasFormat_iff.mpr ⟨dataset, gives⟩) noFormat

/-- A record with a token of every kind, in an order of its own and beside
names that are none of a field. -/
def mixedRecord : List (Text × Value) :=
  [("start_date", .int 7), ("endDate", .decimal (.finite true 150 (-2))),
    ("address", .text "1"), ("note", .null),
    ("allocationAtStartDate", .bool true), ("startDate", .int 1),
    ("allocationAtEndDate", .float (.finite false 4503599627370496 (-53)))]

theorem isJsonLike_mixedRecord :
    (Value.map (namedPairs mixedRecord)).IsJsonLike := by
  refine .map (by decide) ?_ ?_
  · simp only [mixedRecord, List.forall_mem_cons]
    exact ⟨⟨_, rfl⟩, ⟨_, rfl⟩, ⟨_, rfl⟩, ⟨_, rfl⟩, ⟨_, rfl⟩, ⟨_, rfl⟩,
      ⟨_, rfl⟩, by simp⟩
  · simp only [mixedRecord, List.forall_mem_cons]
    exact ⟨.int 7, .decimal _, .text ⟨_, rfl⟩, .null, .bool true, .int 1,
      .float _, by simp⟩

theorem Dataset.ofValue_mixedRecord :
    Dataset.ofValue (.map (namedPairs
        [("A", .list [.map (namedPairs mixedRecord)]), ("B", .list [])])) =
      .ok [("A", [⟨.text "1", .bool true, .number "0.5", .int 1,
        .number "-1.50"⟩]), ("B", [])] := by
  have like : (Value.map (namedPairs
      [("A", .list [.map (namedPairs mixedRecord)]),
        ("B", .list [])])).IsJsonLike := by
    refine .map (by decide) ?_ ?_
    · simp only [List.forall_mem_cons]
      exact ⟨⟨_, rfl⟩, ⟨_, rfl⟩, by simp⟩
    · simp only [List.forall_mem_cons]
      exact ⟨.list (by simpa using isJsonLike_mixedRecord),
        .list (by simp), by simp⟩
  have half : (Value.float (.finite false 4503599627370496 (-53))).GivesToken
      (.number "0.5") := .float rfl
  have negative : (Value.decimal (.finite true 150 (-2))).GivesToken
      (.number "-1.50") := .decimal rfl
  have entry : (Value.map (namedPairs mixedRecord)).GivesEntry
      ⟨.text "1", .bool true, .number "0.5", .int 1, .number "-1.50"⟩ :=
    ⟨mixedRecord, rfl, ⟨_, by simp [mixedRecord], .text _⟩,
      ⟨_, by simp [mixedRecord], .bool _⟩, ⟨_, by simp [mixedRecord], half⟩,
      ⟨_, by simp [mixedRecord], .int _⟩,
      ⟨_, by simp [mixedRecord], negative⟩⟩
  exact ((ofValue_of_isJsonLike like).1 _).mpr ⟨_, rfl,
    .cons ⟨rfl, _, rfl, .cons entry .nil⟩ (.cons ⟨rfl, _, rfl, .nil⟩ .nil)⟩

end Format

end VestingContract
