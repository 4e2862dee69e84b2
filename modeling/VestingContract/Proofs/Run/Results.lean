/-!
# Results that may be errors

A result that is composed of parts is a value just if each part is one.
-/

namespace VestingContract

variable {ε φ α β : Type} {result : Except ε α}

/-- The second part of a result has the value of the first part. -/
theorem exists_of_bind_eq_ok {next : α → Except ε β} {value : β}
    (holds : result >>= next = .ok value) :
    ∃ middle, result = .ok middle ∧ next middle = .ok value := by
  cases result with
  | error fault => cases holds
  | ok middle => exact ⟨middle, rfl, holds⟩

theorem bind_eq_ok_iff {next : α → Except ε β} {value : β} :
    result >>= next = .ok value ↔
      ∃ middle, result = .ok middle ∧ next middle = .ok value := by
  refine ⟨exists_of_bind_eq_ok, ?_⟩
  rintro ⟨middle, rfl, holds⟩
  exact holds

/-- A check that is followed by another result has passed. -/
theorem check_bind_eq_ok_iff {check : Except ε Unit} {next : Except ε β}
    {value : β} :
    (check >>= fun _ => next) = .ok value ↔
      check = .ok () ∧ next = .ok value := by
  rw [bind_eq_ok_iff]
  exact ⟨fun ⟨_, passed, holds⟩ => ⟨passed, holds⟩,
    fun ⟨passed, holds⟩ => ⟨_, passed, holds⟩⟩

/-- What follows a test has a value just if the test does not refuse. -/
theorem refuse_bind_eq_ok_iff {test : Prop} [Decidable test] {fault : ε}
    {next : α → Except ε β} {allowed : Except ε β} {value : β} :
    (if test then throw fault >>= next else allowed) = .ok value ↔
      ¬ test ∧ allowed = .ok value := by
  by_cases refused : test
  · simp only [refused, if_true, not_true, false_and, iff_false]
    exact fun holds => nomatch holds
  · simp only [refused, if_false, not_false_iff, true_and]

theorem refuse_eq_ok_iff {test : Prop} [Decidable test] {fault : ε}
    {value : α} :
    (if test then throw fault else pure value : Except ε α) = .ok value ↔
      ¬ test := by
  by_cases refused : test
  · simp only [refused, if_true, not_true, iff_false]
    exact fun holds => nomatch holds
  · simp only [refused, if_false, not_false_iff, iff_true]
    rfl

theorem eq_ok_of_mapError {change : ε → φ} {value : α}
    (holds : result.mapError change = .ok value) : result = .ok value := by
  cases result with
  | error fault => cases holds
  | ok other =>
      cases holds
      rfl

theorem mapError_eq_ok_iff {change : ε → φ} {value : α} :
    result.mapError change = .ok value ↔ result = .ok value := by
  refine ⟨eq_ok_of_mapError, ?_⟩
  rintro rfl
  rfl

/-- A function that has a value for a list has one for each of its items. -/
theorem exists_of_mapM_eq_ok {change : α → Except ε β} {items : List α}
    {values : List β} (holds : items.mapM change = .ok values) :
    ∀ item ∈ items, ∃ value, change item = .ok value := by
  induction items generalizing values with
  | nil => simp
  | cons item items ih =>
      rw [List.mapM_cons] at holds
      obtain ⟨value, first, later⟩ := exists_of_bind_eq_ok holds
      obtain ⟨others, rest, -⟩ := exists_of_bind_eq_ok later
      exact List.forall_mem_cons.mpr ⟨⟨value, first⟩, ih rest⟩

/-- A run over a list that fails has come to an item at which a step fails. -/
theorem exists_of_foldlM_eq_error {step : α → β → Except ε α} {start : α}
    {items : List β} {fault : ε}
    (fails : items.foldlM step start = .error fault) :
    ∃ front item back middle, items = front ++ item :: back ∧
      front.foldlM step start = .ok middle ∧
      step middle item = .error fault := by
  induction items generalizing start with
  | nil => cases fails
  | cons first rest ih =>
      rw [List.foldlM_cons] at fails
      cases taken : step start first with
      | error other =>
          rw [taken] at fails
          cases fails
          exact ⟨[], first, rest, start, rfl, rfl, taken⟩
      | ok next =>
          rw [taken] at fails
          obtain ⟨front, item, back, middle, rfl, runs, stops⟩ := ih fails
          refine ⟨first :: front, item, back, middle, rfl, ?_, stops⟩
          rw [List.foldlM_cons, taken]
          exact runs

section Faults

/-- The faults of a result are of a kind. -/
def OnlyFails (Allowed : ε → Prop) (result : Except ε α) : Prop :=
  ∀ fault, result = .error fault → Allowed fault

variable {Allowed : ε → Prop}

@[simp]
theorem onlyFails_ok {value : α} :
    OnlyFails Allowed (.ok value : Except ε α) :=
  fun _ same => nomatch same

@[simp]
theorem onlyFails_pure {value : α} :
    OnlyFails Allowed (pure value : Except ε α) :=
  fun _ same => nomatch same

@[simp]
theorem onlyFails_error {fault : ε} :
    OnlyFails Allowed (.error fault : Except ε α) ↔ Allowed fault := by
  constructor
  · exact fun allowed => allowed fault rfl
  · rintro allowed _ ⟨⟩
    exact allowed

@[simp]
theorem onlyFails_throw {fault : ε} :
    OnlyFails Allowed (throw fault : Except ε α) ↔ Allowed fault :=
  onlyFails_error

/-- Both parts of a composed result have faults of the kind. -/
@[simp]
theorem onlyFails_bind {next : α → Except ε β} :
    OnlyFails Allowed (result >>= next) ↔ OnlyFails Allowed result ∧
      ∀ value, result = .ok value → OnlyFails Allowed (next value) := by
  cases result with
  | error fault =>
      change OnlyFails Allowed (.error fault) ↔ _
      simp
  | ok value =>
      change OnlyFails Allowed (next value) ↔ _
      simp

@[simp]
theorem onlyFails_map {change : α → β} :
    OnlyFails Allowed (change <$> result) ↔ OnlyFails Allowed result := by
  cases result with
  | error fault =>
      change OnlyFails Allowed (.error fault) ↔ _
      simp
  | ok value =>
      change OnlyFails Allowed (.ok (change value)) ↔ _
      simp

@[simp]
theorem onlyFails_mapError {change : ε → φ} {Other : φ → Prop} :
    OnlyFails Other (result.mapError change) ↔
      OnlyFails (fun fault => Other (change fault)) result := by
  cases result with
  | error fault =>
      change OnlyFails Other (.error (change fault)) ↔ _
      simp
  | ok value =>
      change OnlyFails Other (.ok value) ↔ _
      simp

theorem onlyFails_mapM {change : α → Except ε β} {items : List α}
    (each : ∀ item, OnlyFails Allowed (change item)) :
    OnlyFails Allowed (items.mapM change) := by
  induction items with
  | nil => simp
  | cons item items ih => simp [List.mapM_cons, each, ih]

@[simp]
theorem onlyFails_ite {test : Prop} [Decidable test]
    {other : Except ε α} :
    OnlyFails Allowed (if test then result else other) ↔
      (test → OnlyFails Allowed result) ∧
        (¬ test → OnlyFails Allowed other) := by
  by_cases holds : test <;> simp [holds]

end Faults

end VestingContract
