import VestingContract.Proofs.Run.Stateful

/-!
# Two runs of the same work

Work is run from two states that are related in some way.  The runs agree if
they have the same result and end in states that are related again.  Composed
work agrees if its parts do, so that what work does not look at is shown by
looking at its parts.
-/

namespace VestingContract.Stateful

variable {ε σ α β : Type}

/-- From related states two runs of the same work end in the same result or
the same failure, and in related states. -/
def Agrees (before : σ → σ → Prop) (work : ExceptT ε (StateM σ) α)
    (succeeds : α → σ → σ → Prop) (fails : σ → σ → Prop) : Prop :=
  ∀ first second, before first second →
    ∃ result afterFirst afterSecond,
      work.run first = (result, afterFirst) ∧
      work.run second = (result, afterSecond) ∧
      match result with
      | .ok value => succeeds value afterFirst afterSecond
      | .error _ => fails afterFirst afterSecond

/-- Work that ends in the same result, and in states that are related as they
were, is indifferent to what the relation leaves open. -/
def Indifferent (relation : σ → σ → Prop) (work : ExceptT ε (StateM σ) α) :
    Prop :=
  Agrees relation work (fun _ => relation) relation

variable {before : σ → σ → Prop} {work : ExceptT ε (StateM σ) α}
  {succeeds : α → σ → σ → Prop} {fails : σ → σ → Prop}

theorem Agrees.pure {value : α}
    (holds : ∀ first second, before first second →
      succeeds value first second) :
    Agrees before (pure value : ExceptT ε (StateM σ) α) succeeds fails :=
  fun first second related =>
    ⟨.ok value, first, second, rfl, rfl, holds first second related⟩

theorem Agrees.throw {failure : ε}
    (holds : ∀ first second, before first second → fails first second) :
    Agrees before (throw failure : ExceptT ε (StateM σ) α) succeeds fails :=
  fun first second related =>
    ⟨.error failure, first, second, rfl, rfl, holds first second related⟩

theorem Agrees.modify {change : σ → σ} {succeeds : PUnit → σ → σ → Prop}
    (holds : ∀ first second, before first second →
      succeeds ⟨⟩ (change first) (change second)) :
    Agrees before (modify change : ExceptT ε (StateM σ) PUnit) succeeds
      fails :=
  fun first second related =>
    ⟨.ok ⟨⟩, _, _, rfl, rfl, holds first second related⟩

/-- The state may be looked at if nothing depends on what the relation leaves
open. -/
theorem Agrees.get_bind {next : σ → ExceptT ε (StateM σ) α}
    (same : ∀ first second, before first second → next second = next first)
    (agrees : ∀ state, Agrees
      (fun first second => before first second ∧ first = state) (next state)
      succeeds fails) :
    Agrees before (get >>= next) succeeds fails := by
  intro first second related
  rw [run_bind_of_ok (run_get first), run_bind_of_ok (run_get second),
    same first second related]
  exact agrees first first second ⟨related, rfl⟩

theorem Agrees.bind {middle : α → σ → σ → Prop}
    {next : α → ExceptT ε (StateM σ) β} {succeeds : β → σ → σ → Prop}
    (begins : Agrees before work middle fails)
    (goesOn : ∀ value, Agrees (middle value) (next value) succeeds fails) :
    Agrees before (work >>= next) succeeds fails := by
  intro first second related
  obtain ⟨result, afterFirst, afterSecond, runsFirst, runsSecond, holds⟩ :=
    begins first second related
  cases result with
  | ok value =>
      rw [run_bind_of_ok runsFirst, run_bind_of_ok runsSecond]
      exact goesOn value afterFirst afterSecond holds
  | error failure =>
      rw [run_bind_of_error runsFirst, run_bind_of_error runsSecond]
      exact ⟨.error failure, _, _, rfl, rfl, holds⟩

theorem Agrees.tryCatch {handled : σ → σ → Prop}
    {handler : ε → ExceptT ε (StateM σ) α}
    (begins : Agrees before work succeeds handled)
    (handles : ∀ failure, Agrees handled (handler failure) succeeds fails) :
    Agrees before (tryCatch work handler) succeeds fails := by
  intro first second related
  obtain ⟨result, afterFirst, afterSecond, runsFirst, runsSecond, holds⟩ :=
    begins first second related
  cases result with
  | ok value =>
      rw [run_tryCatch_of_ok runsFirst, run_tryCatch_of_ok runsSecond]
      exact ⟨.ok value, _, _, rfl, rfl, holds⟩
  | error failure =>
      rw [run_tryCatch_of_error runsFirst, run_tryCatch_of_error runsSecond]
      exact handles failure afterFirst afterSecond holds

theorem Agrees.map {succeeds : β → σ → σ → Prop} {change : α → β}
    (agrees : Agrees before work (fun value => succeeds (change value)) fails) :
    Agrees before (change <$> work) succeeds fails := by
  rw [← bind_pure_comp]
  exact agrees.bind fun value => .pure fun _ _ holds => holds

/-- The states may be related more closely in the beginning, and less closely
in the end. -/
theorem Agrees.imp {before' : σ → σ → Prop} {succeeds' : α → σ → σ → Prop}
    {fails' : σ → σ → Prop} (agrees : Agrees before work succeeds fails)
    (beforeImp : ∀ first second, before' first second → before first second)
    (succeedsImp : ∀ value first second, succeeds value first second →
      succeeds' value first second)
    (failsImp : ∀ first second, fails first second → fails' first second) :
    Agrees before' work succeeds' fails' := by
  intro first second related
  obtain ⟨result, afterFirst, afterSecond, runsFirst, runsSecond, holds⟩ :=
    agrees first second (beforeImp first second related)
  refine ⟨result, afterFirst, afterSecond, runsFirst, runsSecond, ?_⟩
  cases result with
  | ok value => exact succeedsImp value _ _ holds
  | error failure => exact failsImp _ _ holds

theorem Agrees.of_begins {before' : σ → σ → Prop}
    (beforeImp : ∀ first second, before' first second → before first second)
    (agrees : Agrees before work succeeds fails) :
    Agrees before' work succeeds fails :=
  agrees.imp beforeImp (fun _ _ _ holds => holds) fun _ _ holds => holds

/-- What work keeps holds of the first run beside the relation of both. -/
theorem Agrees.and_preserves {condition : σ → Prop}
    (agrees : Agrees before work succeeds fails)
    (preserves : Preserves condition work) :
    Agrees (fun first second => before first second ∧ condition first) work
      (fun value first second => succeeds value first second ∧
        condition first)
      (fun first second => fails first second ∧ condition first) := by
  rintro first second ⟨related, holdsFirst⟩
  obtain ⟨result, afterFirst, afterSecond, runsFirst, runsSecond, holds⟩ :=
    agrees first second related
  have kept := preserves first holdsFirst result afterFirst runsFirst
  refine ⟨result, afterFirst, afterSecond, runsFirst, runsSecond, ?_⟩
  cases result with
  | ok value => exact ⟨holds, kept⟩
  | error failure => exact ⟨holds, kept⟩

end VestingContract.Stateful
