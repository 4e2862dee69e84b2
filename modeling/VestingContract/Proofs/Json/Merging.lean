import Mathlib.Algebra.BigOperators.Group.List.Basic
import Mathlib.Algebra.GroupWithZero.Nat
import VestingContract.Json.Reader
import VestingContract.Proofs.Text.Keyed

/-!
# Members of one name

Decoding an object keeps one member of each name: the name stays where it
first stands, and the value is the last one.  What the other members of the
name hold is lost, so an object is kept as it is written only if its names
differ.
-/

namespace VestingContract.Json

section Keeping

/-- The members of an object that decoding keeps. -/
def keptMembers (members : List (Text × Json)) : List (Text × Json) :=
  members.foldl (fun kept member => keepPair member kept) []

theorem keptMembers_concat (members : List (Text × Json))
    (member : Text × Json) :
    keptMembers (members ++ [member]) =
      keepPair member (keptMembers members) := by
  rw [keptMembers, List.foldl_append]
  rfl

variable {member : Text × Json} {kept members : List (Text × Json)}

/-- A name is kept where it first stands. -/
theorem names_keptMembers (members : List (Text × Json)) :
    (keptMembers members).map Prod.fst =
      (members.map Prod.fst).eraseDups := by
  -- Decoding goes on at the back, where the induction takes members away.
  induction members using List.reverseRecOn with
  | nil => rfl
  | append_singleton members member ih =>
      rw [keptMembers_concat, keys_keepPair, ih,
        List.map_append, List.map_singleton, eraseDups_concat]
      simp only [List.mem_eraseDups]

theorem nodup_keptMembers (members : List (Text × Json)) :
    ((keptMembers members).map Prod.fst).Nodup := by
  rw [names_keptMembers]
  exact nodup_eraseDups _

theorem keptMembers_of_nodup (distinct : (members.map Prod.fst).Nodup) :
    keptMembers members = members := by
  induction members using List.reverseRecOn with
  | nil => rfl
  | append_singleton members member ih =>
      rw [List.map_append, List.nodup_append] at distinct
      obtain ⟨others, -, apart⟩ := distinct
      rw [keptMembers_concat, ih others]
      apply keepPair_of_not_mem
      intro before
      exact apart _ before _ (List.mem_singleton_self _) rfl

/-- A member with no member of its name behind it. -/
def IsLast (member : Text × Json) (members : List (Text × Json)) : Prop :=
  ∃ before after, members = before ++ member :: after ∧
    member.1 ∉ after.map Prod.fst

/-- The members that are kept are the last ones of their names. -/
theorem mem_keptMembers :
    member ∈ keptMembers members ↔ IsLast member members := by
  induction members using List.reverseRecOn with
  | nil =>
      constructor
      · rintro isKept
        cases isKept
      · rintro ⟨before, after, empty, -⟩
        simp at empty
  | append_singleton members last ih =>
      rw [keptMembers_concat, mem_keepPair (nodup_keptMembers members), ih]
      constructor
      · rintro (rfl | ⟨⟨before, after, rfl, absent⟩, different⟩)
        · exact ⟨members, [], rfl, List.not_mem_nil⟩
        · refine ⟨before, after ++ [last], by simp, ?_⟩
          simp only [List.map_append, List.mem_append, not_or]
          exact ⟨absent, by simpa using different⟩
      · rintro ⟨before, after, same, absent⟩
        rcases List.eq_nil_or_concat after with rfl | ⟨after, end_, rfl⟩
        · exact .inl (by simpa using (List.append_inj' same rfl).2.symm)
        · rw [List.concat_eq_append] at same absent
          rw [← List.cons_append, ← List.append_assoc] at same
          obtain ⟨rfl, lastEq⟩ := List.append_inj' same rfl
          simp only [List.map_append, List.mem_append, not_or] at absent
          obtain rfl : last = end_ := by simpa using lastEq
          exact .inr ⟨⟨before, after, rfl, absent.1⟩, by simpa using absent.2⟩

theorem insertPair_toPairs (ofNumber : List Char → Value)
    (member : Text × Json) (kept : List (Text × Json)) :
    Value.insertPair (.text member.1) (member.2.toValue ofNumber)
        (toPairs ofNumber kept) =
      toPairs ofNumber (keepPair member kept) := by
  induction kept with
  | nil => rfl
  | cons first rest ih =>
      rw [toPairs, Value.insertPair, keepPair]
      by_cases same : first.1 = member.1
      · rw [if_pos (by simp [Value.sameKey, same]), if_pos same, toPairs,
          same]
      · rw [if_neg (by simp [Value.sameKey, same]), if_neg same, toPairs, ih]

theorem toPairs_append (ofNumber : List Char → Value)
    (before after : List (Text × Json)) :
    toPairs ofNumber (before ++ after) =
      toPairs ofNumber before ++ toPairs ofNumber after := by
  induction before with
  | nil => rfl
  | cons member before ih => rw [List.cons_append, toPairs, ih]; rfl

/-- An object is decoded as the mapping of the members that are kept. -/
theorem toValue_object (ofNumber : List Char → Value)
    (members : List (Text × Json)) :
    (object members).toValue ofNumber =
      .map (toPairs ofNumber (keptMembers members)) := by
  rw [toValue, Value.mapOfPairs]
  congr 1
  induction members using List.reverseRecOn with
  | nil => rfl
  | append_singleton members member ih =>
      rw [keptMembers_concat, ← insertPair_toPairs, ← ih, toPairs_append,
        List.foldl_append]
      rfl

end Keeping

section Counting

/-- The entries that a member holds: the objects in its array. -/
def entryCount : Json → Nat
  | array items => items.countP fun
      | object _ => true
      | _ => false
  | _ => 0

/-- The entries that members hold, those of one name included. -/
def writtenEntries (members : List (Text × Json)) : Nat :=
  (members.map fun member => member.2.entryCount).sum

/-- The last members of their names, in the order in which they stand. -/
def lastMembers : List (Text × Json) → List (Text × Json)
  | [] => []
  | member :: members =>
      if member.1 ∈ members.map Prod.fst then lastMembers members
      else member :: lastMembers members

variable {member : Text × Json} {members : List (Text × Json)}

theorem isLast_cons {first : Text × Json} :
    IsLast member (first :: members) ↔
      (member = first ∧ first.1 ∉ members.map Prod.fst) ∨
        IsLast member members := by
  constructor
  · rintro ⟨before, after, same, absent⟩
    cases before with
    | nil =>
        rw [List.nil_append] at same
        cases same
        exact .inl ⟨rfl, absent⟩
    | cons head before =>
        rw [List.cons_append] at same
        cases same
        exact .inr ⟨before, after, rfl, absent⟩
  · rintro (⟨rfl, absent⟩ | ⟨before, after, rfl, absent⟩)
    · exact ⟨[], members, rfl, absent⟩
    · exact ⟨first :: before, after, rfl, absent⟩

theorem mem_lastMembers :
    member ∈ lastMembers members ↔ IsLast member members := by
  induction members with
  | nil =>
      constructor
      · rintro isLast
        cases isLast
      · rintro ⟨before, after, empty, -⟩
        simp at empty
  | cons first members ih =>
      rw [lastMembers, isLast_cons]
      split
      · next present => simp [ih, present]
      · next absent => simp [ih, absent]

theorem nodup_lastMembers (members : List (Text × Json)) :
    (lastMembers members).Nodup := by
  induction members with
  | nil => exact List.nodup_nil
  | cons first members ih =>
      rw [lastMembers]
      split
      · exact ih
      · next absent =>
          refine List.nodup_cons.mpr ⟨fun isLast => absent ?_, ih⟩
          obtain ⟨before, after, rfl, -⟩ := mem_lastMembers.mp isLast
          simp

/-- What is kept and the last members are the same up to their order. -/
theorem keptMembers_perm (members : List (Text × Json)) :
    (keptMembers members).Perm (lastMembers members) := by
  rw [List.perm_ext_iff_of_nodup (.of_map _ (nodup_keptMembers members))
    (nodup_lastMembers members)]
  intro member
  rw [mem_keptMembers, mem_lastMembers]

/-- No entries are lost: a member with another one of its name behind it holds
none. -/
def LosesNothing (members : List (Text × Json)) : Prop :=
  ∀ before member after, members = before ++ member :: after →
    member.1 ∈ after.map Prod.fst → member.2.entryCount = 0

theorem losesNothing_cons {first : Text × Json} :
    LosesNothing (first :: members) ↔
      (first.1 ∈ members.map Prod.fst → first.2.entryCount = 0) ∧
        LosesNothing members := by
  constructor
  · intro nothing
    exact ⟨nothing [] first members rfl, fun before member after same =>
      nothing (first :: before) member after (by rw [same]; rfl)⟩
  · rintro ⟨none, others⟩ before member after same present
    cases before with
    | nil =>
        cases same
        exact none present
    | cons head before =>
        rw [List.cons_append] at same
        cases same
        exact others before member after rfl present

/-- The last members hold all entries just if the others hold none. -/
theorem writtenEntries_lastMembers (members : List (Text × Json)) :
    writtenEntries (lastMembers members) ≤ writtenEntries members ∧
      (writtenEntries (lastMembers members) = writtenEntries members ↔
        LosesNothing members) := by
  induction members with
  | nil => exact ⟨Nat.le_refl _, by simp [LosesNothing, lastMembers]⟩
  | cons first members ih =>
      obtain ⟨atMost, exactly⟩ := ih
      rw [losesNothing_cons, lastMembers, ← exactly]
      simp only [writtenEntries, List.map_cons, List.sum_cons] at atMost ⊢
      split
      · next present => exact ⟨by omega, by constructor <;> grind⟩
      · next absent =>
          simp only [List.map_cons, List.sum_cons]
          exact ⟨by omega, by simp [absent]⟩

theorem writtenEntries_keptMembers (members : List (Text × Json)) :
    writtenEntries (keptMembers members) ≤ writtenEntries members ∧
      (writtenEntries (keptMembers members) = writtenEntries members ↔
        LosesNothing members) := by
  have same : writtenEntries (keptMembers members) =
      writtenEntries (lastMembers members) :=
    ((keptMembers_perm members).map _).sum_eq
  rw [same]
  exact writtenEntries_lastMembers members

end Counting

end VestingContract.Json
