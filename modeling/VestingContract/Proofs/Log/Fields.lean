import VestingContract.Log.Line
import VestingContract.Proofs.Text.Keyed

/-!
# Fields of log lines

Fields are written one after the other, some of them under a name that was
written before.  Such a field keeps the place of its name and gets the new
value.  What is kept is therefore told by two lists: each name stands where it
was first written, with the value that was last written under it.
-/

namespace VestingContract

namespace LogContext

theorem insert_eq_keepPair (name : Text) (value : Value)
    (context : LogContext) :
    insert name value context = keepPair (name, value) context := by
  induction context with
  | nil => rfl
  | cons field fields ih => rw [insert, keepPair, ih]

section Keeping

/-- What is kept of fields that are written one after the other: each name
stands where it was first written, with the value that was written last. -/
structure Keeps (kept written : LogContext) : Prop where
  names : kept.map Prod.fst = (written.map Prod.fst).eraseDups
  values : ∀ name, kept.lookup name = written.reverse.lookup name

variable {kept written fields : LogContext}

theorem keeps_nil : Keeps [] [] := ⟨rfl, fun _ => rfl⟩

theorem Keeps.insert (keeps : Keeps kept written) (name : Text)
    (value : Value) :
    Keeps (LogContext.insert name value kept) (written ++ [(name, value)]) := by
  rw [insert_eq_keepPair]
  constructor
  case names =>
    rw [keys_keepPair, keeps.names, List.map_append, List.map_singleton,
      eraseDups_concat]
    simp only [List.mem_eraseDups]
  case values =>
    intro other
    rw [lookup_keepPair, List.reverse_concat, lookup_cons_eq_if, keeps.values]

/-- More fields are written behind the others. -/
theorem Keeps.extend (keeps : Keeps kept written) (fields : LogContext) :
    Keeps (kept.extend fields) (written ++ fields) := by
  -- The next field meets what the fields before it have left, so both lists
  -- are general.
  induction fields generalizing kept written with
  | nil => rwa [List.append_nil]
  | cons field fields ih =>
      have first := ih (keeps.insert field.1 field.2)
      rwa [List.append_assoc] at first

theorem Keeps.nodup (keeps : Keeps kept written) :
    (kept.map Prod.fst).Nodup := by
  rw [keeps.names]
  exact nodup_eraseDups _

/-- Fields stand for what they were kept of when they are written again. -/
theorem Keeps.trans {opening later : LogContext}
    (keeps : Keeps kept (opening ++ fields)) (others : Keeps fields later) :
    Keeps kept (opening ++ later) := by
  constructor
  case names =>
    rw [keeps.names, List.map_append, List.map_append, others.names,
      eraseDups_append_eraseDups]
  case values =>
    intro name
    rw [keeps.values, List.reverse_append, List.reverse_append,
      List.lookup_append, List.lookup_append,
      lookup_reverse_of_nodup others.nodup, others.values]

/-- Whatever is kept was written. -/
theorem Keeps.mem (keeps : Keeps kept written) {field : Text × Value}
    (isKept : field ∈ kept) : field ∈ written := by
  have found := lookup_of_mem keeps.nodup isKept
  rw [keeps.values, List.lookup_eq_some_iff] at found
  obtain ⟨later, earlier, same, -⟩ := found
  rw [← List.mem_reverse, same]
  exact List.mem_append_right later List.mem_cons_self

end Keeping

end LogContext

end VestingContract
