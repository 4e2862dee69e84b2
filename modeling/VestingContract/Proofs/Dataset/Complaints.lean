import VestingContract.Dataset.Document
import VestingContract.Proofs.Dataset.Format

/-!
# What is said about a mapping that is no dataset

A mapping deserves a complaint for every category that is no list, for every
item of a list that is no record, and for every field of a record that is
missing or holds no literal.  The message about a mapping that is refused
consists of these complaints and no others, in the order of the categories,
then of the entries, then of the fields.
-/

namespace VestingContract

/-- A complaint about a part.  Its place consists of the positions of the
category, of the entry and of the field, as far as they are needed. -/
structure Complaint where
  place : List Nat
  path : Text
  reason : ViolationReason

namespace Complaint

/-- The path to the part and what is wrong with it. -/
def text (complaint : Complaint) : Text :=
  complaint.path ++ ": " ++ complaint.reason.message

/-- The path to a category; one without a name cannot be told from the whole
mapping. -/
def categoryPath (name : Text) : Text :=
  if name = [] then "<top level>" else name

/-- The path to an entry of a category. -/
def entryPath (name : Text) (index : Nat) : Text :=
  name ++ "[" ++ Text.ofNat index ++ "]"

/-- Why a value that a document can hold is no literal. -/
inductive IsUnfit : Value → ViolationReason → Prop
  | null : IsUnfit .null (.notALiteral "NoneType")
  | list (items : List Value) : IsUnfit (.list items) (.notALiteral "list")
  | map (pairs : List (Value × Value)) :
      IsUnfit (.map pairs) (.notALiteral "dict")
  | float {double : Binary64} (infinite : double.isFinite = false) :
      IsUnfit (.float double) (.nonFinite double.toText)
  | decimal {number : Decimal} (infinite : number.isFinite = false) :
      IsUnfit (.decimal number) (.nonFinite number.toText)

/-- The complaints that a mapping deserves. -/
inductive IsDue (members : List (Text × Value)) : Complaint → Prop
  | category {position : Nat} {name : Text} {value : Value}
      (member : members[position]? = some (name, value))
      (noList : ∀ items, value ≠ .list items) :
      IsDue members ⟨[position], categoryPath name, .notAList⟩
  | entry {position index : Nat} {name : Text} {items : List Value}
      {item : Value} (member : members[position]? = some (name, .list items))
      (atIndex : items[index]? = some item)
      (noRecord : ∀ pairs, item ≠ .map pairs) :
      IsDue members ⟨[position, index], entryPath name index, .notARecord⟩
  | missing {position index number : Nat} {name field : Text}
      {items : List Value} {record : List (Text × Value)}
      (member : members[position]? = some (name, .list items))
      (atIndex : items[index]? = some (.map (namedPairs record)))
      (isField : Entry.fieldNames[number]? = some field)
      (absent : field ∉ record.map Prod.fst) :
      IsDue members
        ⟨[position, index, number], entryPath name index ++ "." ++ field,
          .missing⟩
  | unfit {position index number : Nat} {name field : Text}
      {items : List Value} {record : List (Text × Value)} {value : Value}
      {reason : ViolationReason}
      (member : members[position]? = some (name, .list items))
      (atIndex : items[index]? = some (.map (namedPairs record)))
      (isField : Entry.fieldNames[number]? = some field)
      (holds : (field, value) ∈ record) (isUnfit : IsUnfit value reason) :
      IsDue members
        ⟨[position, index, number], entryPath name index ++ "." ++ field,
          reason⟩

section Collecting

variable {α : Type} (report : α → Nat → List Complaint) (items : List α)

/-- A complaint about a part of the item at a position. -/
def under (position : Nat) (complaint : Complaint) : Complaint :=
  { complaint with place := position :: complaint.place }

/-- The complaints about the items of a list, one item after the other. -/
def collect : List Complaint :=
  items.zipIdx.flatMap fun item =>
    (report item.1 item.2).map (under item.2)

variable {report items}

theorem mem_collect {complaint : Complaint} :
    complaint ∈ collect report items ↔
      ∃ position item inner, items[position]? = some item ∧
        inner ∈ report item position ∧ inner.under position = complaint := by
  simp only [collect, List.mem_flatMap, List.mem_map,
    List.mem_zipIdx_iff_getElem?, Prod.exists]
  constructor
  · rintro ⟨item, position, atPosition, inner, reported, isUnder⟩
    exact ⟨position, item, inner, atPosition, reported, isUnder⟩
  · rintro ⟨position, item, inner, atPosition, reported, isUnder⟩
    exact ⟨item, position, atPosition, inner, reported, isUnder⟩

/-- Complaints in order about every item are in order about the list. -/
theorem pairwise_collect
    (ordered : ∀ item position,
      (report item position).Pairwise fun first second =>
        first.place < second.place) :
    (collect report items).Pairwise fun first second =>
      first.place < second.place := by
  have positions : items.zipIdx.Pairwise fun first second =>
      first.2 < second.2 := by
    rw [← List.pairwise_map, List.zipIdx_map_snd]
    exact List.pairwise_lt_range'
  rw [collect, List.pairwise_flatMap]
  constructor
  · intro item _
    rw [List.pairwise_map]
    refine (ordered item.1 item.2).imp fun isBefore => ?_
    exact List.cons_lt_cons_iff.mpr (.inr ⟨rfl, isBefore⟩)
  · refine positions.imp fun isBefore first reported second later => ?_
    obtain ⟨_, _, rfl⟩ := List.mem_map.mp reported
    obtain ⟨_, _, rfl⟩ := List.mem_map.mp later
    exact List.cons_lt_cons_iff.mpr (.inl isBefore)

theorem texts_collect :
    (collect report items).map text =
      items.zipIdx.flatMap fun item =>
        (report item.1 item.2).map text := by
  rw [collect, List.map_flatMap]
  refine List.flatMap_congr fun item _ => ?_
  rw [List.map_map]
  rfl

theorem texts_collect_const {report : α → List Complaint} :
    (collect (fun item _ => report item) items).map text =
      items.flatMap fun item => (report item).map text := by
  rw [texts_collect, ← List.flatMap_map Prod.fst fun item =>
    (report item).map text, List.zipIdx_map_fst]

end Collecting

section Reports

/-- The complaint about a field of an entry, if there is one. -/
def ofField (path : Text) (pairs : List (Value × Value)) (field : Text) :
    List Complaint :=
  match Entry.field pairs field with
  | .ok _ => []
  | .error reason => [⟨[], path ++ "." ++ field, reason⟩]

/-- The complaints about an item of a category. -/
def ofItem (name : Text) (item : Value) (index : Nat) : List Complaint :=
  match item with
  | .map pairs =>
      collect (fun field _ => ofField (entryPath name index) pairs field)
        Entry.fieldNames
  | _ => [⟨[], entryPath name index, .notARecord⟩]

/-- The complaints about a category. -/
def ofMember (member : Text × Value) : List Complaint :=
  match member.2 with
  | .list items => collect (ofItem member.1) items
  | _ => [⟨[], categoryPath member.1, .notAList⟩]

/-- The complaints about a mapping. -/
def ofMembers (members : List (Text × Value)) : List Complaint :=
  collect (fun member _ => ofMember member) members

theorem pairwise_ofMember (member : Text × Value) :
    (ofMember member).Pairwise fun first second =>
      first.place < second.place := by
  unfold ofMember
  split
  · refine pairwise_collect fun item index => ?_
    unfold ofItem
    split
    · refine pairwise_collect fun field number => ?_
      unfold ofField
      split
      · exact .nil
      · exact List.pairwise_singleton _ _
    · exact List.pairwise_singleton _ _
  · exact List.pairwise_singleton _ _

end Reports

section Due

variable {members : List (Text × Value)}

theorem ofValue_eq_error_iff {value : Value} (like : value.IsJsonLike)
    {reason : ViolationReason} :
    Token.ofValue value = .error reason ↔ IsUnfit value reason := by
  constructor
  · intro refused
    cases like with
    | null => cases refused; exact .null
    | list => cases refused; exact .list _
    | map => cases refused; exact .map _
    | float double =>
        rw [Token.ofValue] at refused
        split at refused
        · cases refused
        · next infinite => cases refused; exact .float (by simpa using infinite)
    | decimal number =>
        rw [Token.ofValue] at refused
        split at refused
        · cases refused
        · next infinite =>
            cases refused
            exact .decimal (by simpa using infinite)
    | _ => cases refused
  · intro unfit
    cases unfit with
    | float infinite => exact if_neg (by simp [infinite])
    | decimal infinite => exact if_neg (by simp [infinite])
    | _ => rfl

theorem field_eq_error_iff {record : List (Text × Value)}
    (like : (Value.map (namedPairs record)).IsJsonLike) {field : Text}
    {reason : ViolationReason} :
    Entry.field (namedPairs record) field = .error reason ↔
      (reason = .missing ∧ field ∉ record.map Prod.fst) ∨
        ∃ value, (field, value) ∈ record ∧ IsUnfit value reason := by
  obtain ⟨distinct, -, likeValues⟩ := like.of_map
  have lookup := @Value.lookup?_namedPairs record distinct field
  rw [Entry.field]
  split
  · next notFound =>
      have absent : ∀ value, (field, value) ∉ record := by
        intro value isMember
        rw [lookup.mpr isMember] at notFound
        cases notFound
      simp [absent, eq_comm]
  · next value found =>
      have isMember := lookup.mp found
      rw [ofValue_eq_error_iff (likeValues _ isMember)]
      constructor
      · intro unfit
        exact .inr ⟨value, isMember, unfit⟩
      · rintro (⟨-, absent⟩ | ⟨other, isOther, unfit⟩)
        · exact absurd (List.mem_map.mpr ⟨_, isMember, rfl⟩) absent
        · rw [lookup.mpr isOther] at found
          cases found
          exact unfit

theorem mem_ofField {record : List (Text × Value)}
    (like : (Value.map (namedPairs record)).IsJsonLike) {path field : Text}
    {complaint : Complaint} :
    complaint ∈ ofField path (namedPairs record) field ↔
      ∃ reason, complaint = ⟨[], path ++ "." ++ field, reason⟩ ∧
        ((reason = .missing ∧ field ∉ record.map Prod.fst) ∨
          ∃ value, (field, value) ∈ record ∧ IsUnfit value reason) := by
  simp only [← field_eq_error_iff like, ofField]
  cases Entry.field (namedPairs record) field with
  | ok token => simp
  | error reason => simp

theorem mem_ofMembers_of_field
    (like : (Value.map (namedPairs members)).IsJsonLike)
    {position index number : Nat} {name field : Text} {items : List Value}
    {record : List (Text × Value)} {reason : ViolationReason}
    (member : members[position]? = some (name, .list items))
    (atIndex : items[index]? = some (.map (namedPairs record)))
    (isField : Entry.fieldNames[number]? = some field)
    (invalid : (reason = .missing ∧ field ∉ record.map Prod.fst) ∨
      ∃ value, (field, value) ∈ record ∧ IsUnfit value reason) :
    ⟨[position, index, number], entryPath name index ++ "." ++ field,
      reason⟩ ∈ ofMembers members := by
  have likeItems := (like.of_map.2.2 _ (List.mem_of_getElem? member)).of_list
  have likeRecord := likeItems _ (List.mem_of_getElem? atIndex)
  refine mem_collect.mpr
    ⟨position, _, ⟨[index, number], _, _⟩, member, ?_, rfl⟩
  refine mem_collect.mpr ⟨index, _, ⟨[number], _, _⟩, atIndex, ?_, rfl⟩
  rw [ofItem]
  refine mem_collect.mpr ⟨number, field, ⟨[], _, _⟩, isField, ?_, rfl⟩
  exact (mem_ofField likeRecord).mpr ⟨reason, rfl, invalid⟩

theorem isDue_of_mem_ofMembers
    (like : (Value.map (namedPairs members)).IsJsonLike)
    {complaint : Complaint} (isComplaint : complaint ∈ ofMembers members) :
    IsDue members complaint := by
  obtain ⟨-, -, likeMembers⟩ := like.of_map
  obtain ⟨position, ⟨name, value⟩, _, member, inMember, rfl⟩ :=
    mem_collect.mp isComplaint
  have likeValue := likeMembers _ (List.mem_of_getElem? member)
  cases likeValue with
  | @list items likeItems =>
      obtain ⟨index, item, _, atIndex, inItem, rfl⟩ :=
        mem_collect.mp inMember
      have likeItem := likeItems _ (List.mem_of_getElem? atIndex)
      cases likeItem with
      | @map record distinct whole likeFields =>
          rw [ofItem] at inItem
          obtain ⟨number, field, _, isField, inField, rfl⟩ :=
            mem_collect.mp inItem
          obtain ⟨reason, rfl, ⟨rfl, absent⟩ | ⟨value, holds, unfit⟩⟩ :=
            (mem_ofField (.map distinct whole likeFields)).mp inField
          · exact .missing member atIndex isField absent
          · exact .unfit member atIndex isField holds unfit
      | _ =>
          obtain rfl := List.mem_singleton.mp inItem
          exact .entry member atIndex (by simp)
  | _ =>
      obtain rfl := List.mem_singleton.mp inMember
      exact .category member (by simp)

theorem mem_ofMembers_of_isDue
    (like : (Value.map (namedPairs members)).IsJsonLike)
    {complaint : Complaint} (due : IsDue members complaint) :
    complaint ∈ ofMembers members := by
  cases due with
  | @category position name value member noList =>
      refine mem_collect.mpr ⟨position, _, ⟨[], _, _⟩, member, ?_, rfl⟩
      unfold ofMember
      split
      · next items isList => exact absurd isList (noList items)
      · exact List.mem_singleton.mpr rfl
  | @entry position index name items item member atIndex noRecord =>
      refine mem_collect.mpr ⟨position, _, ⟨[index], _, _⟩, member, ?_, rfl⟩
      refine mem_collect.mpr ⟨index, _, ⟨[], _, _⟩, atIndex, ?_, rfl⟩
      unfold ofItem
      split
      · next pairs => exact absurd rfl (noRecord pairs)
      · exact List.mem_singleton.mpr rfl
  | missing member atIndex isField absent =>
      exact mem_ofMembers_of_field like member atIndex isField
        (.inl ⟨rfl, absent⟩)
  | unfit member atIndex isField holds unfit =>
      exact mem_ofMembers_of_field like member atIndex isField
        (.inr ⟨_, holds, unfit⟩)

/-- A mapping has the complaints that it deserves and no others. -/
theorem mem_ofMembers
    (like : (Value.map (namedPairs members)).IsJsonLike)
    {complaint : Complaint} :
    complaint ∈ ofMembers members ↔ IsDue members complaint :=
  ⟨isDue_of_mem_ofMembers like, mem_ofMembers_of_isDue like⟩

end Due

section Messages

variable (name field : Text) (index : Nat) (place : List Nat)
  (reason : ViolationReason)

theorem message_category :
    Violation.message ⟨[.name name], reason⟩ =
      text ⟨place, categoryPath name, reason⟩ := by
  simp [Violation.message, text, locationText, LocationPart.appendTo,
    categoryPath]

theorem message_entry :
    Violation.message ⟨[.name name, .index index], reason⟩ =
      text ⟨place, entryPath name index, reason⟩ := by
  simp [Violation.message, text, locationText, LocationPart.appendTo,
    entryPath, Text.ofInt, Text.ofString, Text.ofChars]

theorem message_field :
    Violation.message ⟨[.name name, .index index, .name field], reason⟩ =
      text ⟨place, entryPath name index ++ "." ++ field, reason⟩ := by
  simp [Violation.message, text, locationText, LocationPart.appendTo,
    entryPath, Text.ofInt, Text.ofString, Text.ofChars]

end Messages

section Texts

theorem replaceSurrogates_of_isWhole {name : Text} (whole : name.IsWhole) :
    replaceSurrogates name = name := by
  obtain ⟨chars, rfl⟩ := whole
  induction chars with
  | nil => rfl
  | cons char chars ih => exact congrArg (_ :: ·) ih

theorem violationsOf_ofValues (position : Nat) (items : List Value) :
    violationsOf (Entry.ofValues position items) =
      (items.zipIdx position).flatMap fun item =>
        (violationsOf (Entry.ofValue item.1)).map
          (.under (.index item.2)) := by
  induction items generalizing position with
  | nil => rfl
  | cons item items ih =>
      rw [List.zipIdx_cons, List.flatMap_cons, ← ih, Entry.ofValues]
      split
      · next isEntry areEntries => rw [isEntry, areEntries]; rfl
      · rfl

theorem violationsOf_ofValue_map (pairs : List (Value × Value)) :
    violationsOf (Entry.ofValue (.map pairs)) =
      Entry.fieldViolations pairs := by
  rw [Entry.ofValue]
  split
  · next isEntry =>
      obtain ⟨first, second, third, fourth, fifth⟩ :=
        Entry.ofFields?_eq_some_iff.mp isEntry
      simp only [Entry.fieldViolations, Entry.fieldNames, List.filterMap_cons,
        first, second, third, fourth, fifth]
      rfl
  · rfl

theorem texts_ofItem {item : Value} (like : item.IsJsonLike) (name : Text)
    (index : Nat) :
    (ofItem name item index).map text =
      (violationsOf (Entry.ofValue item)).map fun violation =>
        ((violation.under (.index index)).under (.name name)).message := by
  cases like with
  | @map record =>
      rw [violationsOf_ofValue_map, ofItem, texts_collect_const,
        Entry.fieldViolations, List.filterMap_eq_flatMap_toList,
        List.map_flatMap]
      refine List.flatMap_congr fun field _ => ?_
      rw [ofField]
      cases Entry.field (namedPairs record) field with
      | ok token => rfl
      | error reason =>
          exact congrArg ([·]) (message_field name field index [] reason).symm
  | _ => exact congrArg ([·]) (message_entry name index [] .notARecord).symm

theorem texts_ofMember {name : Text} {value : Value}
    (like : value.IsJsonLike) :
    (ofMember (name, value)).map text =
      (violationsOf (entriesOf value)).map fun violation =>
        (violation.under (.name name)).message := by
  cases like with
  | @list items all =>
      rw [ofMember, texts_collect, entriesOf, Value.listed?,
        violationsOf_ofValues, List.map_flatMap]
      refine List.flatMap_congr fun item isItem => ?_
      have likeItem := all item.1 (List.mem_of_getElem?
        (List.mem_zipIdx_iff_getElem?.mp isItem))
      rw [texts_ofItem likeItem, List.map_map]
      rfl
  | _ => exact congrArg ([·]) (message_category name [] .notAList).symm

theorem texts_ofMembers {members : List (Text × Value)}
    (like : (Value.map (namedPairs members)).IsJsonLike) :
    (ofMembers members).map text =
      (Dataset.violations (namedPairs members)).map Violation.message := by
  obtain ⟨-, whole, likeValues⟩ := like.of_map
  rw [ofMembers, texts_collect_const, Dataset.violations, namedPairs,
    List.flatMap_map, List.map_flatMap]
  refine List.flatMap_congr fun member isMember => ?_
  rw [texts_ofMember (likeValues member isMember), Dataset.categoryViolations,
    categoryName, LocationPart.ofKey,
    replaceSurrogates_of_isWhole (whole member isMember), List.map_append,
    List.map_map]
  rfl

end Texts

end Complaint

/-- The message about a mapping that is no dataset makes the complaints that
the mapping deserves and no others, in the order of their places. -/
theorem Dataset.message_of_refused {members : List (Text × Value)}
    (like : (Value.map (namedPairs members)).IsJsonLike)
    {fault : DatasetFault}
    (refused : Dataset.ofValue (.map (namedPairs members)) = .error fault)
    (source : Text) :
    ∃ complaints : List Complaint,
      (DocumentFault.invalid fault).message source = source ++ ": " ++
        Text.join "; " (complaints.map Complaint.text) ∧
      (complaints.Pairwise fun first second => first.place < second.place) ∧
      ∀ complaint, complaint ∈ complaints ↔
        Complaint.IsDue members complaint := by
  refine ⟨Complaint.ofMembers members, ?_, ?_, fun complaint =>
    Complaint.mem_ofMembers like⟩
  · rw [Dataset.ofValue] at refused
    split at refused
    · cases refused
    · cases refused
      rw [Complaint.texts_ofMembers like]
      rfl
  · exact Complaint.pairwise_collect fun member _ =>
      Complaint.pairwise_ofMember member

/-- A category that is no list, an item that is no record, and a record with
two missing fields and two that hold no literal. -/
def faultyMembers : List (Text × Value) :=
  [("A", .null), ("B", .list [.int 1, .map (namedPairs
    [("endDate", .float (.infinite true)), ("address", .list []),
      ("startDate", .int 1), ("start", .null)])])]

theorem isJsonLike_faultyMembers :
    (Value.map (namedPairs faultyMembers)).IsJsonLike := by
  have record : (Value.map (namedPairs
      [("endDate", .float (.infinite true)), ("address", .list []),
        ("startDate", .int 1), ("start", .null)])).IsJsonLike := by
    refine .map (by decide) ?_ ?_ <;> simp only [List.forall_mem_cons]
    · exact ⟨⟨_, rfl⟩, ⟨_, rfl⟩, ⟨_, rfl⟩, ⟨_, rfl⟩, by simp⟩
    · exact ⟨.float _, .list (by simp), .int 1, .null, by simp⟩
  refine .map (by decide) ?_ ?_ <;>
    simp only [faultyMembers, List.forall_mem_cons]
  · exact ⟨⟨_, rfl⟩, ⟨_, rfl⟩, by simp⟩
  · exact ⟨.null, .list (by simpa using ⟨.int 1, record⟩), by simp⟩

theorem Dataset.message_of_faultyMembers :
    ∃ violations,
      Dataset.ofValue (.map (namedPairs faultyMembers)) =
        .error (.invalid violations) ∧
      violations.map Violation.location =
        [[.name "A"], [.name "B", .index 0],
          [.name "B", .index 1, .name "address"],
          [.name "B", .index 1, .name "allocationAtStartDate"],
          [.name "B", .index 1, .name "allocationAtEndDate"],
          [.name "B", .index 1, .name "endDate"]] ∧
      ∃ complaints : List Complaint,
        (DocumentFault.invalid (.invalid violations)).message "data.json" =
          "data.json" ++ ": " ++
            Text.join "; " (complaints.map Complaint.text) ∧
        (complaints.Pairwise fun first second =>
          first.place < second.place) ∧
        ∀ complaint, complaint ∈ complaints ↔
          Complaint.IsDue faultyMembers complaint := by
  have refused : Dataset.ofValue (.map (namedPairs faultyMembers)) =
      .error (.invalid (violations (namedPairs faultyMembers))) := rfl
  exact ⟨_, refused, by decide,
    message_of_refused isJsonLike_faultyMembers refused "data.json"⟩

end VestingContract
