import Mathlib.Data.List.Forall2
import Mathlib.Data.List.Nodup
import VestingContract.Dataset.Validation

/-!
# Mappings that are datasets

A mapping of different names to values is a dataset just if every value lists
the entries of a category, and then its categories are those of the dataset in
their order.
-/

namespace VestingContract

section Violations

theorem Entry.ofFields?_eq_some_iff {pairs : List (Value × Value)}
    {entry : Entry} :
    ofFields? pairs = some entry ↔
      field pairs "address" = .ok entry.address ∧
      field pairs "allocationAtStartDate" = .ok entry.amountAtStart ∧
      field pairs "allocationAtEndDate" = .ok entry.amountAtEnd ∧
      field pairs "startDate" = .ok entry.startDate ∧
      field pairs "endDate" = .ok entry.endDate := by
  constructor
  · intro isEntry
    rw [ofFields?] at isEntry
    split at isEntry
    · next fields =>
        simp only [fieldNames, List.map_cons, List.map_nil, List.cons.injEq]
          at fields
        obtain ⟨first, second, third, fourth, fifth, -⟩ := fields
        cases isEntry
        exact ⟨first, second, third, fourth, fifth⟩
    · cases isEntry
  · rintro ⟨first, second, third, fourth, fifth⟩
    simp only [ofFields?, fieldNames, List.map_cons, List.map_nil, first,
      second, third, fourth, fifth]

/-- A record that is invalid has a violation. -/
theorem Entry.ofFields?_of_fieldViolations {pairs : List (Value × Value)}
    (none : fieldViolations pairs = []) :
    ∃ entry, ofFields? pairs = some entry := by
  have valid : ∀ name ∈ fieldNames, ∃ token, field pairs name = .ok token := by
    intro name isField
    have noViolation := List.filterMap_eq_nil_iff.mp none name isField
    cases read : field pairs name with
    | ok token => exact ⟨token, rfl⟩
    | error reason =>
        rw [read] at noViolation
        cases noViolation
  simp only [fieldNames, List.forall_mem_cons] at valid
  obtain ⟨⟨first, firstEq⟩, ⟨second, secondEq⟩, ⟨third, thirdEq⟩,
    ⟨fourth, fourthEq⟩, ⟨fifth, fifthEq⟩, -⟩ := valid
  exact ⟨⟨first, second, third, fourth, fifth⟩,
    ofFields?_eq_some_iff.mpr
      ⟨firstEq, secondEq, thirdEq, fourthEq, fifthEq⟩⟩

theorem Entry.ofValue_of_violationsOf {value : Value}
    (none : violationsOf (ofValue value) = []) :
    ∃ entry, ofValue value = .ok entry := by
  cases read : ofValue value with
  | ok entry => exact ⟨entry, rfl⟩
  | error violations =>
      rw [read] at none
      obtain rfl : violations = [] := none
      unfold ofValue at read
      split at read
      · cases read
      · next pairs =>
          split at read
          · cases read
          · next unread =>
              obtain ⟨entry, isEntry⟩ :=
                ofFields?_of_fieldViolations (Except.error.inj read)
              rw [isEntry] at unread
              cases unread
      · cases read

theorem Entry.ofValues_of_violationsOf {position : Nat} {values : List Value}
    (none : violationsOf (ofValues position values) = []) :
    ∃ entries, ofValues position values = .ok entries := by
  induction values generalizing position with
  | nil => exact ⟨[], rfl⟩
  | cons value values ih =>
      rw [ofValues] at none ⊢
      split at none
      · exact ⟨_, rfl⟩
      · next invalid =>
          obtain ⟨first, rest⟩ := List.append_eq_nil_iff.mp none
          obtain ⟨entry, valid⟩ :=
            ofValue_of_violationsOf (List.map_eq_nil_iff.mp first)
          obtain ⟨entries, validRest⟩ := ih rest
          exact absurd validRest (invalid entry entries valid)

theorem entriesOf_of_violationsOf {value : Value}
    (none : violationsOf (entriesOf value) = []) :
    ∃ entries, entriesOf value = .ok entries := by
  unfold entriesOf at none ⊢
  split at none
  · exact Entry.ofValues_of_violationsOf none
  · cases none

end Violations

section Members

/-- Names with their values as the pairs of a mapping. -/
def namedPairs (members : List (Text × Value)) : List (Value × Value) :=
  members.map fun member => (.text member.1, member.2)

/-- A member names a category and lists its entries. -/
def ListsEntries (member : Text × Value) (category : Text × List Entry) :
    Prop :=
  member.1 = category.1 ∧ entriesOf member.2 = .ok category.2

variable {members : List (Text × Value)} {dataset : Dataset}

theorem Dataset.insert_of_not_mem {category : Text} {dataset : Dataset}
    (absent : category ∉ dataset.map Prod.fst) (entries : List Entry) :
    dataset.insert category entries = dataset ++ [(category, entries)] := by
  induction dataset with
  | nil => rfl
  | cons first rest ih =>
      simp only [List.map_cons, List.mem_cons, not_or] at absent
      rw [Dataset.insert, if_neg (Ne.symm absent.1), ih absent.2,
        List.cons_append]

theorem Dataset.insertAll_of_listsEntries {added : Dataset}
    (lists : List.Forall₂ ListsEntries members added)
    (distinct : (members.map Prod.fst).Nodup) (dataset : Dataset)
    (apart : ∀ name ∈ members.map Prod.fst,
      name ∉ dataset.map Prod.fst) :
    (namedPairs members).foldl
        (fun dataset pair =>
          match categoryName pair.1, entriesOf pair.2 with
          | .ok category, .ok entries => dataset.insert category entries
          | _, _ => dataset) dataset = dataset ++ added := by
  induction lists generalizing dataset with
  | nil => rw [namedPairs, List.map_nil, List.foldl_nil, List.append_nil]
  | @cons member category members added head _ ih =>
      obtain ⟨name, entries⟩ := category
      obtain ⟨sameName, valid⟩ := head
      obtain ⟨absent, others⟩ := List.nodup_cons.mp distinct
      have isNew : member.1 ∉ dataset.map Prod.fst :=
        apart member.1 (by simp)
      have later := ih others (dataset ++ [(member.1, entries)]) (by
        intro other isLater
        have before := apart other (by
          rw [List.map_cons]
          exact List.mem_cons_of_mem _ isLater)
        have different : other ≠ member.1 := by
          rintro rfl
          exact absent isLater
        simp only [List.map_append, List.mem_append, not_or]
        exact ⟨before, by simpa using different⟩)
      rw [namedPairs, List.map_cons, List.foldl_cons, categoryName, valid]
      simp only [Dataset.insert_of_not_mem isNew]
      rw [namedPairs] at later
      rw [later, List.append_assoc, List.singleton_append, sameName]

theorem Dataset.violations_of_listsEntries
    (lists : List.Forall₂ ListsEntries members dataset) :
    Dataset.violations (namedPairs members) = [] := by
  induction lists with
  | nil => rfl
  | @cons member category members dataset head _ ih =>
      rw [violations, namedPairs] at ih
      rw [namedPairs, List.map_cons, violations, List.flatMap_cons, ih,
        categoryViolations, categoryName, head.2]
      rfl

theorem Dataset.listsEntries_of_violations
    (none : violations (namedPairs members) = []) :
    ∃ dataset, List.Forall₂ ListsEntries members dataset := by
  induction members with
  | nil => exact ⟨[], .nil⟩
  | cons member members ih =>
      rw [namedPairs, List.map_cons, violations, List.flatMap_cons,
        List.append_eq_nil_iff] at none
      obtain ⟨first, rest⟩ := none
      have noneInside := (List.append_eq_nil_iff.mp first).2
      obtain ⟨entries, valid⟩ :=
        entriesOf_of_violationsOf (List.map_eq_nil_iff.mp noneInside)
      obtain ⟨dataset, lists⟩ := ih rest
      exact ⟨(member.1, entries) :: dataset, .cons ⟨rfl, valid⟩ lists⟩

/-- A mapping of different names is the dataset of the categories that its
members list. -/
theorem Dataset.ofValue_eq_ok_iff
    (distinct : (members.map Prod.fst).Nodup) :
    Dataset.ofValue (.map (namedPairs members)) = .ok dataset ↔
      List.Forall₂ ListsEntries members dataset := by
  have accepts : ∀ {other : Dataset},
      List.Forall₂ ListsEntries members other →
        Dataset.ofValue (.map (namedPairs members)) = .ok other := by
    intro other lists
    rw [ofValue, violations_of_listsEntries lists]
    exact congrArg Except.ok
      (insertAll_of_listsEntries lists distinct [] (by simp))
  refine ⟨fun accepted => ?_, accepts⟩
  have noViolations : violations (namedPairs members) = [] := by
    rw [ofValue] at accepted
    split at accepted
    · assumption
    · cases accepted
  obtain ⟨other, lists⟩ := listsEntries_of_violations noViolations
  rw [accepts lists] at accepted
  cases accepted
  exact lists

end Members

end VestingContract
