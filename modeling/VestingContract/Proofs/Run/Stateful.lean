import VestingContract.Run.World

/-!
# Work that may fail and keeps its state

What was done before a failure stays, so a piece of work is told by its
result together with the state that it ends in.  A relation between the
states before and after holds of composed work if it holds of its parts.
-/

namespace VestingContract

namespace Stateful

section Results

variable {ε σ α β : Type} (state : σ)

theorem run_pure (value : α) :
    (pure value : ExceptT ε (StateM σ) α).run state = (.ok value, state) :=
  rfl

theorem run_throw (failure : ε) :
    (throw failure : ExceptT ε (StateM σ) α).run state =
      (.error failure, state) := rfl

theorem run_get :
    (get : ExceptT ε (StateM σ) σ).run state = (.ok state, state) := rfl

theorem run_modify (change : σ → σ) :
    (modify change : ExceptT ε (StateM σ) PUnit).run state =
      (.ok ⟨⟩, change state) := rfl

variable {state} {after : σ}

/-- Work goes on from the state in which its first part has ended. -/
theorem run_bind_of_ok {work : ExceptT ε (StateM σ) α} {value : α}
    (ends : work.run state = (.ok value, after))
    (next : α → ExceptT ε (StateM σ) β) :
    (work >>= next).run state = (next value).run after := by
  have first : work state = _ := ends
  simp only [ExceptT.run, bind, ExceptT.bind, ExceptT.mk, StateT.bind, first]
  rfl

theorem run_bind_of_error {work : ExceptT ε (StateM σ) α} {failure : ε}
    (ends : work.run state = (.error failure, after))
    (next : α → ExceptT ε (StateM σ) β) :
    (work >>= next).run state = (.error failure, after) := by
  have first : work state = _ := ends
  simp only [ExceptT.run, bind, ExceptT.bind, ExceptT.mk, StateT.bind, first]
  rfl

theorem run_map_of_ok {work : ExceptT ε (StateM σ) α} {value : α}
    (ends : work.run state = (.ok value, after)) (change : α → β) :
    (change <$> work).run state = (.ok (change value), after) := by
  rw [← bind_pure_comp, run_bind_of_ok ends]
  rfl

theorem run_map_of_error {work : ExceptT ε (StateM σ) α} {failure : ε}
    (ends : work.run state = (.error failure, after)) (change : α → β) :
    (change <$> work).run state = (.error failure, after) := by
  rw [← bind_pure_comp, run_bind_of_error ends]

theorem run_tryCatch_of_ok {work : ExceptT ε (StateM σ) α} {value : α}
    (ends : work.run state = (.ok value, after))
    (handler : ε → ExceptT ε (StateM σ) α) :
    (tryCatch work handler).run state = (.ok value, after) := by
  have first : work state = _ := ends
  simp only [ExceptT.run, tryCatch, tryCatchThe, MonadExceptOf.tryCatch,
    ExceptT.tryCatch, ExceptT.mk, bind, StateT.bind, first]
  rfl

theorem run_tryCatch_of_error {work : ExceptT ε (StateM σ) α} {failure : ε}
    (ends : work.run state = (.error failure, after))
    (handler : ε → ExceptT ε (StateM σ) α) :
    (tryCatch work handler).run state = (handler failure).run after := by
  have first : work state = _ := ends
  simp only [ExceptT.run, tryCatch, tryCatchThe, MonadExceptOf.tryCatch,
    ExceptT.tryCatch, ExceptT.mk, bind, StateT.bind, first]

end Results

section Relations

variable {ε σ α β : Type}

/-- However work ends, its state is related to the one that it began in. -/
def Relates (relation : σ → σ → Prop) (work : ExceptT ε (StateM σ) α) :
    Prop :=
  ∀ state, relation state (work.run state).2

variable {relation : σ → σ → Prop} {work : ExceptT ε (StateM σ) α}

theorem Relates.of_eq (reflexive : ∀ state, relation state state)
    (same : ∀ state, (work.run state).2 = state) : Relates relation work := by
  intro state
  rw [same]
  exact reflexive state

theorem Relates.bind (transitive : ∀ ⦃first second third⦄,
      relation first second → relation second third → relation first third)
    (related : Relates relation work)
    {next : α → ExceptT ε (StateM σ) β}
    (relatedNext : ∀ value, Relates relation (next value)) :
    Relates relation (work >>= next) := by
  intro state
  have before := related state
  rcases ends : work.run state with ⟨result, after⟩
  rw [ends] at before
  cases result with
  | ok value =>
      rw [run_bind_of_ok ends]
      exact transitive before (relatedNext value after)
  | error failure =>
      rw [run_bind_of_error ends]
      exact before

theorem Relates.tryCatch (transitive : ∀ ⦃first second third⦄,
      relation first second → relation second third → relation first third)
    (related : Relates relation work)
    {handler : ε → ExceptT ε (StateM σ) α}
    (relatedHandler : ∀ failure, Relates relation (handler failure)) :
    Relates relation (tryCatch work handler) := by
  intro state
  have before := related state
  rcases ends : work.run state with ⟨result, after⟩
  rw [ends] at before
  cases result with
  | ok value =>
      rw [run_tryCatch_of_ok ends]
      exact before
  | error failure =>
      rw [run_tryCatch_of_error ends]
      exact transitive before (relatedHandler failure after)

end Relations

section Conditions

variable {ε σ α β : Type}

/-- Work that begins where a condition holds ends in a result or a failure
for which one holds again. -/
def Ensures (before : σ → Prop) (work : ExceptT ε (StateM σ) α)
    (succeeds : α → σ → Prop) (fails : ε → σ → Prop) : Prop :=
  ∀ state, before state → ∀ result after,
    work.run state = (result, after) →
      match result with
      | .ok value => succeeds value after
      | .error failure => fails failure after

/-- A condition that work keeps, however it ends. -/
def Preserves (condition : σ → Prop) (work : ExceptT ε (StateM σ) α) : Prop :=
  Ensures condition work (fun _ => condition) (fun _ => condition)

variable {before : σ → Prop} {work : ExceptT ε (StateM σ) α}
  {succeeds : α → σ → Prop} {fails : ε → σ → Prop}

theorem Ensures.of_run_eq {result : σ → Except ε α} {next : σ → σ}
    (runs : ∀ state, work.run state = (result state, next state))
    (holds : ∀ state, before state → match result state with
      | .ok value => succeeds value (next state)
      | .error failure => fails failure (next state)) :
    Ensures before work succeeds fails := by
  intro state holdsBefore result after ends
  rw [runs] at ends
  cases ends
  exact holds state holdsBefore

theorem Ensures.pure {value : α}
    (holds : ∀ state, before state → succeeds value state) :
    Ensures before (pure value : ExceptT ε (StateM σ) α) succeeds fails :=
  .of_run_eq (fun state => run_pure state value) holds

theorem Ensures.throw {failure : ε}
    (holds : ∀ state, before state → fails failure state) :
    Ensures before (throw failure : ExceptT ε (StateM σ) α) succeeds fails :=
  .of_run_eq (fun state => run_throw state failure) holds

theorem Ensures.modify {change : σ → σ} {succeeds : PUnit → σ → Prop}
    (holds : ∀ state, before state → succeeds ⟨⟩ (change state)) :
    Ensures before (modify change : ExceptT ε (StateM σ) PUnit) succeeds
      fails :=
  .of_run_eq (fun state => run_modify state change) holds

theorem Ensures.get {succeeds : σ → σ → Prop}
    (holds : ∀ state, before state → succeeds state state) :
    Ensures before (get : ExceptT ε (StateM σ) σ) succeeds fails :=
  .of_run_eq (fun state => run_get state) holds

/-- A fact that does not depend on the state may be known from the
beginning. -/
theorem Ensures.given {fact : Prop}
    (holds : fact → Ensures before work succeeds fails) :
    Ensures (fun state => before state ∧ fact) work succeeds fails :=
  fun state holdsBefore => holds holdsBefore.2 state holdsBefore.1

/-- The second part begins where the first one has succeeded. -/
theorem Ensures.bind {middle : α → σ → Prop} {next : α → ExceptT ε (StateM σ) β}
    {succeeds : β → σ → Prop}
    (first : Ensures before work middle fails)
    (second : ∀ value, Ensures (middle value) (next value) succeeds fails) :
    Ensures before (work >>= next) succeeds fails := by
  intro state holdsBefore result after ends
  rcases firstEnds : work.run state with ⟨firstResult, between⟩
  have holds := first state holdsBefore firstResult between firstEnds
  cases firstResult with
  | ok value =>
      rw [run_bind_of_ok firstEnds] at ends
      exact second value between holds result after ends
  | error failure =>
      rw [run_bind_of_error firstEnds] at ends
      cases ends
      exact holds

/-- What follows from the ends of work holds in their place. -/
theorem Ensures.imp {succeeds' : α → σ → Prop} {fails' : ε → σ → Prop}
    (holds : Ensures before work succeeds fails)
    (succeedsImp : ∀ value state, succeeds value state →
      succeeds' value state)
    (failsImp : ∀ failure state, fails failure state →
      fails' failure state) : Ensures before work succeeds' fails' := by
  intro state holdsBefore result after ends
  have holdsAfter := holds state holdsBefore result after ends
  cases result with
  | ok value => exact succeedsImp value after holdsAfter
  | error failure => exact failsImp failure after holdsAfter

theorem Ensures.tryCatch {handled : ε → σ → Prop}
    {handler : ε → ExceptT ε (StateM σ) α}
    (first : Ensures before work succeeds handled)
    (second : ∀ failure,
      Ensures (handled failure) (handler failure) succeeds fails) :
    Ensures before (tryCatch work handler) succeeds fails := by
  intro state holdsBefore result after ends
  rcases firstEnds : work.run state with ⟨firstResult, between⟩
  have holds := first state holdsBefore firstResult between firstEnds
  cases firstResult with
  | ok value =>
      rw [run_tryCatch_of_ok firstEnds] at ends
      cases ends
      exact holds
  | error failure =>
      rw [run_tryCatch_of_error firstEnds] at ends
      exact second failure between holds result after ends

/-- A condition that a relation carries over is kept by related work. -/
theorem Relates.preserves {relation : σ → σ → Prop} {condition : σ → Prop}
    (related : Relates relation work)
    (carries : ∀ state after, relation state after → condition state →
      condition after) : Preserves condition work := by
  intro state holds result after ends
  have step := related state
  rw [ends] at step
  cases result <;> exact carries state after step holds

end Conditions

end Stateful

namespace Action

section Files

variable {α : Type} {work : FileAction α} {world : World}

theorem run_onFiles (work : FileAction α) (world : World) :
    (onFiles work).run world =
      ((work.run world.files).1.mapError Failure.files,
        { world with files := (work.run world.files).2 }) := by
  rcases ends : work.run world.files with ⟨result, files⟩
  rw [onFiles, Stateful.run_bind_of_ok (Stateful.run_get world), ends]
  cases result with
  | ok value => rfl
  | error failure => rfl

end Files

end Action

end VestingContract
