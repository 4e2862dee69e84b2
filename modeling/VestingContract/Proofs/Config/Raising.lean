import VestingContract.Proofs.Config.Reading
import VestingContract.Proofs.Value.Showing

/-!
# What the reading of a configuration raises

The steps of the reading raise errors of several classes.  The clauses around
them make faults of configurations of all but one of these classes, and an
error of this one is raised only where a setting is nested too deeply to have
a text.
-/

namespace VestingContract

namespace ReadingError

/-- The clauses take every error but that of calls inside each other. -/
theorem caught_cases (error : ReadingError) :
    (∃ fault, error.caught = .refused fault) ∨
      error = .recursion ∧ error.caught = .recursion := by
  cases error with
  | recursion => exact .inr ⟨rfl, rfl⟩
  | _ => exact .inl ⟨_, rfl⟩

end ReadingError

section Steps

variable {room : Nat} {value : Value}

/-- What has room is read without too many calls inside each other. -/
abbrev ReadsIn {α : Type} (read : Except ReadingError α) : Prop :=
  OnlyFails (· ≠ .recursion) read

theorem readsIn_type {α : Type} (fault : TypeFault) :
    ReadsIn (.error (.type fault) : Except ReadingError α) :=
  onlyFails_error.mpr ReadingError.noConfusion

theorem Value.readsIn_member (value : Value) (key : Text) :
    ReadsIn (value.member key) := by
  cases value with
  | map pairs =>
      rw [member]
      cases lookup? key pairs with
      | none => exact onlyFails_error.mpr ReadingError.noConfusion
      | some found => exact onlyFails_ok
  | _ => exact readsIn_type _

theorem Value.readsIn_toPath (value : Value) : ReadsIn value.toPath := by
  cases value with
  | text content => exact onlyFails_ok
  | _ => exact readsIn_type _

theorem Value.readsIn_toSetting (fits : value.depth ≤ room) :
    ReadsIn (value.toSetting room) := by
  refine onlyFails_mapError.mpr fun fault fails => ?_
  cases fault with
  | unspellable fault => exact ReadingError.noConfusion
  | tooDeep => exact absurd rfl (fitsIn_display value fits _ fails)

theorem readsIn_sectionOf? (value : Value) : ReadsIn (sectionOf? value) := by
  unfold sectionOf?
  split
  · exact onlyFails_ok
  · cases value with
    | map pairs => exact onlyFails_ok
    | _ => exact onlyFails_error.mpr ReadingError.noConfusion

theorem Value.depth_le_of_lookup? {key : Text} {pairs : List (Value × Value)}
    (found : lookup? key pairs = some value) :
    value.depth ≤ depthOfPairs pairs := by
  fun_induction lookup? key pairs with
  | case1 => cases found
  | case2 =>
      cases found
      rw [depthOfPairs]
      omega
  | case3 _ _ _ _ ih =>
      have fits := ih found
      rw [depthOfPairs]
      omega
  | case4 _ _ _ ih =>
      have fits := ih found
      rw [depthOfPairs]
      omega

/-- A member that may be missing is nested no deeper than the pairs. -/
theorem Value.depth_getD_lookup?_le (key : Text)
    (pairs : List (Value × Value)) :
    ((lookup? key pairs).getD .null).depth ≤ depthOfPairs pairs := by
  cases found : lookup? key pairs with
  | none => exact Nat.zero_le _
  | some value => exact depth_le_of_lookup? found

theorem readsIn_settingOr {pairs : List (Value × Value)}
    (fits : Value.depthOfPairs pairs ≤ room) (key standard : Text) :
    ReadsIn (settingOr room pairs key standard) := by
  rw [settingOr]
  split
  · exact onlyFails_ok
  · next found =>
      exact Value.readsIn_toSetting
        (Nat.le_trans (Value.depth_le_of_lookup? found) fits)

/-- The pairs of a section fit where the section does. -/
theorem depthOfPairs_le_of_sectionOf? {pairs : List (Value × Value)}
    (fits : value.depth ≤ room)
    (isSection : sectionOf? value = .ok (some pairs)) :
    Value.depthOfPairs pairs ≤ room := by
  unfold sectionOf? at isSection
  split at isSection
  · cases isSection
  · cases value with
    | map =>
        cases isSection
        rw [Value.depth] at fits
        omega
    | _ => cases isSection

theorem Template.readsIn_ofSection (fits : value.depth ≤ room) :
    ReadsIn (ofSection room value) := by
  refine onlyFails_bind.mpr ⟨readsIn_sectionOf? value, fun found holds => ?_⟩
  cases found with
  | none => exact onlyFails_pure
  | some pairs =>
      have reads := readsIn_settingOr (depthOfPairs_le_of_sectionOf? fits holds)
      simp only [onlyFails_bind, reads, onlyFails_pure, implies_true, and_self]

theorem LogOptions.readsIn_ofSection (fits : value.depth ≤ room) :
    ReadsIn (ofSection room value) := by
  refine onlyFails_bind.mpr ⟨readsIn_sectionOf? value, fun found holds => ?_⟩
  cases found with
  | none => exact onlyFails_pure
  | some pairs =>
      have pairsFit := depthOfPairs_le_of_sectionOf? fits holds
      have file :
          ReadsIn (((Value.lookup? "file" pairs).getD .null).toSetting room) :=
        Value.readsIn_toSetting
          (Nat.le_trans (Value.depth_getD_lookup?_le "file" pairs) pairsFit)
      refine onlyFails_bind.mpr
        ⟨readsIn_settingOr pairsFit _ _, fun level _ => ?_⟩
      split
      · exact onlyFails_bind.mpr ⟨onlyFails_map.mpr file,
          fun _ _ => onlyFails_pure⟩
      · exact onlyFails_pure

end Steps

namespace Configuration

variable {room : Nat}

theorem readsIn_ofPairs {pairs : List (Value × Value)}
    (fits : Value.depthOfPairs pairs ≤ room) :
    ReadsIn (ofPairs room pairs) := by
  have optional (key : Text) :
      ((Value.lookup? key pairs).getD .null).depth ≤ room :=
    Nat.le_trans (Value.depth_getD_lookup?_le key pairs) fits
  have paths := Value.readsIn_member (.map pairs) "paths"
  have template := Template.readsIn_ofSection (optional "template")
  have logging := LogOptions.readsIn_ofSection (optional "logging")
  simp only [ofPairs, onlyFails_bind, paths, Value.readsIn_member,
    Value.readsIn_toPath, template, logging, onlyFails_pure, implies_true,
    and_self]

/-- A value is answered with a configuration or a fault of configurations,
unless its containers are nested more deeply than there is room for. -/
theorem ofValue_cases (room : Nat) (path : PathName) (value : Value) :
    (∃ configuration, ofValue room path value = .ok configuration) ∨
    (∃ fault, ofValue room path value = .error (.refused fault)) ∨
    ofValue room path value = .error .recursion ∧ room < value.depth := by
  cases value with
  | null => exact .inr (.inl ⟨_, rfl⟩)
  | map pairs =>
      cases read : ofPairs room pairs with
      | error error =>
          have fails : ofValue room path (.map pairs) = .error error.caught := by
            rw [ofValue, read]
            rfl
          obtain ⟨fault, taken⟩ | ⟨rfl, taken⟩ := error.caught_cases
          · exact .inr (.inl ⟨fault, fails.trans (congrArg _ taken)⟩)
          · refine .inr (.inr ⟨fails, ?_⟩)
            by_contra shallow
            rw [Value.depth] at shallow
            exact readsIn_ofPairs (by omega) _ read rfl
      | ok configuration =>
          cases checked : configuration.check with
          | error fault =>
              refine .inr (.inl ⟨fault, ?_⟩)
              rw [ofValue, read]
              change (configuration.check.mapError _ >>= _).mapError _ = _
              rw [checked]
              rfl
          | ok =>
              refine .inl ⟨configuration, ?_⟩
              rw [ofValue, read]
              change (configuration.check.mapError _ >>= _).mapError _ = _
              rw [checked]
              rfl
  | _ => exact .inr (.inl ⟨_, rfl⟩)

end Configuration

end VestingContract
