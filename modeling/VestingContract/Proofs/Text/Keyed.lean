import Mathlib.Data.List.Induction
import Mathlib.Data.List.Nodup

/-!
# Lists with keys

A pair that is kept among others takes the place of the pair with its key, and
stands at the end if there is none.  So the keys stand in the order in which
they first came, each of them once.
-/

namespace VestingContract

section Duplicates

variable {α : Type} [BEq α] [LawfulBEq α]

theorem eraseDups_concat (items : List α) (item : α) :
    (items ++ [item]).eraseDups =
      if item ∈ items then items.eraseDups
      else items.eraseDups ++ [item] := by
  rw [List.eraseDups_append]
  by_cases present : item ∈ items
  · simp [List.removeAll, present]
  · have alone : [item].eraseDups = [item] := rfl
    simp [List.removeAll, present, alone]

theorem nodup_eraseDups (items : List α) : items.eraseDups.Nodup := by
  induction items using List.reverseRecOn with
  | nil => exact List.nodup_nil
  | append_singleton items item ih =>
      rw [eraseDups_concat]
      split
      · exact ih
      · next absent =>
          apply ih.append (List.nodup_singleton item)
          rw [List.disjoint_singleton, List.mem_eraseDups]
          exact absent

theorem eraseDups_of_nodup {items : List α} (distinct : items.Nodup) :
    items.eraseDups = items := by
  induction items using List.reverseRecOn with
  | nil => rfl
  | append_singleton items item ih =>
      obtain ⟨others, -, apart⟩ := List.nodup_append.mp distinct
      have absent : item ∉ items := fun member =>
        apart item member item (List.mem_singleton_self item) rfl
      rw [eraseDups_concat, if_neg absent, ih others]

theorem eraseDups_filter (keep : α → Bool) (items : List α) :
    (items.filter keep).eraseDups = items.eraseDups.filter keep := by
  induction items using List.reverseRecOn with
  | nil => rfl
  | append_singleton items item ih =>
      rw [List.filter_append, eraseDups_concat]
      cases isKept : keep item with
      | false =>
          rw [List.filter_singleton, isKept]
          split <;> simp [ih, isKept]
      | true =>
          rw [List.filter_singleton, isKept, cond_true, eraseDups_concat]
          by_cases present : item ∈ items <;>
            simp [present, ih, isKept, List.filter_append]

/-- Duplicates among the later items make no difference. -/
theorem eraseDups_append_eraseDups (items later : List α) :
    (items ++ later.eraseDups).eraseDups = (items ++ later).eraseDups := by
  rw [List.eraseDups_append, List.eraseDups_append, List.removeAll,
    List.removeAll, eraseDups_filter, eraseDups_filter,
    eraseDups_of_nodup (nodup_eraseDups later)]

end Duplicates

section Pairs

variable {α β : Type} [DecidableEq α]

/-- A list with one more pair.  A key that is there already keeps its place
and gets the new pair. -/
def keepPair (pair : α × β) : List (α × β) → List (α × β)
  | [] => [pair]
  | first :: rest =>
      if first.1 = pair.1 then pair :: rest else first :: keepPair pair rest

variable {pair : α × β} {pairs : List (α × β)}

theorem keepPair_of_not_mem (absent : pair.1 ∉ pairs.map Prod.fst) :
    keepPair pair pairs = pairs ++ [pair] := by
  induction pairs with
  | nil => rfl
  | cons first rest ih =>
      simp only [List.map_cons, List.mem_cons, not_or] at absent
      rw [keepPair, if_neg (Ne.symm absent.1), ih absent.2, List.cons_append]

theorem keys_keepPair :
    (keepPair pair pairs).map Prod.fst =
      if pair.1 ∈ pairs.map Prod.fst then pairs.map Prod.fst
      else pairs.map Prod.fst ++ [pair.1] := by
  induction pairs with
  | nil => rfl
  | cons first rest ih =>
      rw [keepPair]
      by_cases isFirst : first.1 = pair.1
      · simp [isFirst]
      · simp only [if_neg isFirst, List.map_cons, ih, List.mem_cons,
          Ne.symm isFirst, false_or]
        split <;> rfl

variable [BEq α] [LawfulBEq α]

theorem lookup_cons_eq_if (first : α × β) (rest : List (α × β)) (key : α) :
    (first :: rest).lookup key =
      if key = first.1 then some first.2 else rest.lookup key := by
  rw [List.lookup_cons]
  by_cases same : key = first.1
  · rw [if_pos same, beq_iff_eq.mpr same]
  · rw [if_neg same, beq_eq_false_iff_ne.mpr same]

theorem lookup_keepPair (key : α) :
    (keepPair pair pairs).lookup key =
      if key = pair.1 then some pair.2 else pairs.lookup key := by
  induction pairs with
  | nil => rw [keepPair, lookup_cons_eq_if]
  | cons first rest ih =>
      rw [keepPair, lookup_cons_eq_if]
      by_cases isFirst : first.1 = pair.1
      · rw [if_pos isFirst, lookup_cons_eq_if, isFirst]
        split <;> rfl
      · rw [if_neg isFirst, lookup_cons_eq_if, ih]
        by_cases isKey : key = first.1
        · subst isKey
          rw [if_pos rfl, if_pos rfl, if_neg isFirst]
        · rw [if_neg isKey, if_neg isKey]

theorem lookup_reverse_of_nodup (distinct : (pairs.map Prod.fst).Nodup)
    (key : α) : pairs.reverse.lookup key = pairs.lookup key := by
  induction pairs with
  | nil => rfl
  | cons first rest ih =>
      obtain ⟨absent, others⟩ := List.nodup_cons.mp distinct
      rw [List.reverse_cons, List.lookup_append, ih others,
        lookup_cons_eq_if, lookup_cons_eq_if]
      by_cases isKey : key = first.1
      · have none : rest.lookup key = none := by
          rw [List.lookup_eq_none_iff]
          intro other member
          rw [isKey, bne_iff_ne]
          intro same
          exact absent (same ▸ List.mem_map_of_mem member)
        rw [none, if_pos isKey, if_pos isKey, Option.none_or]
      · rw [if_neg isKey, if_neg isKey, List.lookup_nil, Option.or_none]

end Pairs

theorem lookup_of_mem {α β : Type} [BEq α] [LawfulBEq α] {pair : α × β}
    {pairs : List (α × β)} (distinct : (pairs.map Prod.fst).Nodup)
    (member : pair ∈ pairs) : pairs.lookup pair.1 = some pair.2 := by
  obtain ⟨before, after, rfl⟩ := List.append_of_mem member
  refine List.lookup_eq_some_iff.mpr ⟨before, after, rfl, ?_⟩
  intro other isBefore
  rw [List.map_append, List.nodup_append] at distinct
  exact bne_iff_ne.mpr (distinct.2.2 _ (List.mem_map_of_mem isBefore) _
    List.mem_cons_self).symm

theorem mem_iff_lookup {α β : Type} [BEq α] [LawfulBEq α] {pair : α × β}
    {pairs : List (α × β)} (distinct : (pairs.map Prod.fst).Nodup) :
    pair ∈ pairs ↔ pairs.lookup pair.1 = some pair.2 := by
  refine ⟨lookup_of_mem distinct, fun found => ?_⟩
  obtain ⟨before, after, rfl, -⟩ := List.lookup_eq_some_iff.mp found
  exact List.mem_append_right before List.mem_cons_self

section Keeping

variable {α β : Type} [DecidableEq α] {pair other : α × β}
  {pairs : List (α × β)}

theorem nodup_keepPair (distinct : (pairs.map Prod.fst).Nodup) :
    ((keepPair pair pairs).map Prod.fst).Nodup := by
  rw [keys_keepPair]
  split
  · exact distinct
  · next absent =>
      apply distinct.append (List.nodup_singleton _)
      exact List.disjoint_singleton.mpr absent

/-- Of the pairs with a key only the new one is kept. -/
theorem mem_keepPair (distinct : (pairs.map Prod.fst).Nodup) :
    other ∈ keepPair pair pairs ↔
      other = pair ∨ other ∈ pairs ∧ other.1 ≠ pair.1 := by
  rw [mem_iff_lookup (nodup_keepPair distinct), lookup_keepPair,
    mem_iff_lookup distinct]
  by_cases isKey : other.1 = pair.1
  · simp [isKey, Prod.ext_iff, eq_comm]
  · simp [isKey, Prod.ext_iff]

end Keeping

end VestingContract
