import VestingContract.CommandLine.Options
import VestingContract.Log.Line
import VestingContract.Proofs.Run.Results
import VestingContract.Text.Case

/-!
# What arguments ask for

A level that the command line asks for is one of the few that it may ask for,
and `--dry-run` in front of the arguments asks for the same call as a dry run.
-/

namespace VestingContract.Options

/-- The level, if there is one, may be asked for. -/
def HasRequestableLevel (options : Options) : Prop :=
  ∀ level, options.logLevel = some level → level ∈ requestableLevels

section Interpreting

variable {options next : Options} {option : CommandOption} {value : Text}

theorem HasRequestableLevel.setValue (requestable : options.HasRequestableLevel)
    (set : options.setValue option value = .ok next) :
    next.HasRequestableLevel := by
  unfold Options.setValue at set
  cases option with
  | logLevel =>
      simp only at set
      split at set
      · next isLevel =>
          cases set
          rintro level ⟨⟩
          exact isLevel
      · cases set
  | _ =>
      cases set
      exact requestable

theorem HasRequestableLevel.interpret {unrecognized : List Text}
    {arguments : List Argument} {result : Options}
    (requestable : options.HasRequestableLevel)
    (asked : options.interpret unrecognized arguments = .ok (.run result)) :
    result.HasRequestableLevel := by
  fun_induction Options.interpret options unrecognized arguments with
  | case1 =>
      cases asked
      exact requestable
  | case3 options _ found _ _ joined _ ih =>
      obtain ⟨next, set, later⟩ := exists_of_bind_eq_ok asked
      exact ih next (requestable.setValue set) later
  | case4 options _ found _ _ value _ ih =>
      obtain ⟨next, set, later⟩ := exists_of_bind_eq_ok asked
      exact ih next (requestable.setValue set) later
  | case8 _ _ _ _ _ _ _ _ _ ih => exact ih requestable asked
  | case9 _ _ _ _ _ ih => exact ih requestable asked
  | _ => cases asked

theorem setValue_dryRun (set : options.setValue option value = .ok next) :
    { options with dryRun := true }.setValue option value =
      .ok { next with dryRun := true } := by
  unfold Options.setValue at set ⊢
  cases option with
  | logLevel =>
      simp only at set ⊢
      split at set
      · next isLevel =>
          cases set
          rw [if_pos isLevel]
      · cases set
  | _ =>
      cases set
      rfl

theorem interpret_dryRun {unrecognized : List Text}
    {arguments : List Argument} {result : Options}
    (asked : options.interpret unrecognized arguments = .ok (.run result)) :
    { options with dryRun := true }.interpret unrecognized arguments =
      .ok (.run { result with dryRun := true }) := by
  fun_induction Options.interpret options unrecognized arguments with
  | case1 _ _ none =>
      cases asked
      rw [Options.interpret, if_pos none]
  | case3 options _ found _ hasValue joined _ ih =>
      obtain ⟨next, set, later⟩ := exists_of_bind_eq_ok asked
      rw [Options.interpret, if_pos hasValue]
      simp only [setValue_dryRun set]
      exact ih next later
  | case4 options _ found _ hasValue value _ ih =>
      obtain ⟨next, set, later⟩ := exists_of_bind_eq_ok asked
      rw [Options.interpret, if_pos hasValue]
      simp only [setValue_dryRun set]
      exact ih next later
  | case8 _ _ _ _ _ _ isFlag noFault notHelp ih =>
      unfold Options.interpret
      simp only [isFlag, noFault, notHelp, if_false]
      exact ih asked
  | case9 _ _ _ _ notOption ih =>
      rw [Options.interpret]
      · exact ih asked
      · exact notOption
  | _ => cases asked

end Interpreting

section Requests

variable {arguments : List Text} {options : Options}

theorem hasRequestableLevel
    (asked : Request.ofArguments arguments = .ok (.run options)) :
    options.HasRequestableLevel := by
  obtain ⟨found, -, interpreted⟩ := exists_of_bind_eq_ok asked
  have noLevel : Options.unset.HasRequestableLevel := by
    rintro level ⟨⟩
  exact noLevel.interpret interpreted

/-- The arguments behind `--dry-run` mean what they mean without it. -/
theorem ofArguments_dryRun
    (asked : Request.ofArguments arguments = .ok (.run options)) :
    Request.ofArguments ("--dry-run" :: arguments) =
      .ok (.run { options with dryRun := true }) := by
  obtain ⟨found, spelled, interpreted⟩ := exists_of_bind_eq_ok asked
  have flag : Argument.ofText "--dry-run" =
      .ok (.option .dryRun true none) := rfl
  have spelledAll : Argument.ofTexts ("--dry-run" :: arguments) =
      .ok (.option .dryRun true none :: found) := by
    rw [Argument.ofTexts, if_neg (by decide), flag, spelled]
    rfl
  have flagged : unset.interpret [] (.option .dryRun true none :: found) =
      { unset with dryRun := true }.interpret [] found := by
    conv => lhs; unfold Options.interpret
    rfl
  rw [Request.ofArguments, spelledAll]
  exact flagged.trans (interpret_dryRun interpreted)

theorem exists_level_of_requestable :
    ∀ name ∈ requestableLevels, ∃ level,
      levelOfName? name.toUpper = some level := by
  intro name member
  have known : ∀ name ∈ requestableLevels,
      (levelOfName? name.toUpper).isSome := by decide
  exact Option.isSome_iff_exists.mp (known name member)

end Requests

end VestingContract.Options
