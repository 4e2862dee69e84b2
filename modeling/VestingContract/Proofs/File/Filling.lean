import VestingContract.Proofs.File.Tree
import VestingContract.Proofs.Run.Stateful

/-!
# Filling a temporary file

A text is written to an open file until the device refuses a step.  The file
then holds a part of the text, and it is removed, for the refusal is an error
of the system.  Only that a text has no encoding leaves the open file as it
was found.
-/

namespace VestingContract

namespace FileTree

theorem append_nil (tree : FileTree) (identity : Nat) :
    tree.append identity [] = tree := by
  have nodes : (tree.append identity []).nodes = tree.nodes := by
    conv_rhs => rw [← List.map_id tree.nodes]
    rw [append]
    apply List.map_congr_left
    rintro ⟨path, node⟩ -
    cases node with
    | directory => rfl
    | file owner content =>
        simp only [List.append_nil]
        split <;> rfl
  exact congrArg (fun nodes => { tree with nodes := nodes }) nodes

theorem append_append (tree : FileTree) (identity : Nat)
    (bytes more : List UInt8) :
    (tree.append identity bytes).append identity more =
      tree.append identity (bytes ++ more) := by
  have nodes : ((tree.append identity bytes).append identity more).nodes =
      (tree.append identity (bytes ++ more)).nodes := by
    simp only [append, List.map_map]
    apply List.map_congr_left
    rintro ⟨path, node⟩ -
    cases node with
    | directory => rfl
    | file owner content =>
        by_cases isOwner : owner = identity <;>
          simp [isOwner, List.append_assoc]
  exact congrArg (fun nodes => { tree with nodes := nodes }) nodes

end FileTree

namespace FileAction

open Stateful

variable {device : Device} {target : PathName} {text : Text}
  {identity : Nat} {tree : FileTree}

theorem run_append (identity : Nat) (bytes : List UInt8) (tree : FileTree) :
    (append identity bytes).run tree =
      (.ok ⟨⟩, tree.append identity bytes) := rfl

theorem run_rename (device : Device) (source target : PathName)
    (tree : FileTree) :
    (rename device source target).run tree =
      match device.rename tree source target with
      | .ok after => (.ok ⟨⟩, after)
      | .error error => (.error (.file (.systemBetween error source.toText
          target.toText)), tree) := by
  rw [rename, run_bind_of_ok (run_get tree)]
  cases device.rename tree source target <;> rfl

theorem run_step_of_none {step : DeviceStep}
    (taken : device.refuses step = none) (tree : FileTree) :
    (FileAction.step device step).run tree = (.ok ⟨⟩, tree) := by
  rw [FileAction.step, taken]
  rfl

theorem run_step_of_some {step : DeviceStep} {error : SystemError}
    (refused : device.refuses step = some error) (tree : FileTree) :
    (FileAction.step device step).run tree =
      (.error (.file (.plainSystem error)), tree) := by
  rw [FileAction.step, refused]
  rfl

/-- Bytes that the encoding of a text begins with; there are none if nothing
has been encoded. -/
def BeginsText (text : Text) (part : List UInt8) : Prop :=
  part = [] ∨ ∃ rest, Utf8.encode text = .ok (part ++ rest)

/-- Writing a text to an open file fails because the text has no encoding,
and nothing has been written, or because the device refuses a step. -/
inductive WriteFails (device : Device) (text : Text) (identity : Nat)
    (tree : FileTree) : FileFailure → FileTree → Prop
  | unencodable {fault : Utf8.EncodeFault}
      (unencodable : Utf8.encode text = .error fault) :
      WriteFails device text identity tree (.encoding fault) tree
  | refused {step : DeviceStep} {error : SystemError} {part : List UInt8}
      (refuses : device.refuses step = some error)
      (begins : BeginsText text part) :
      WriteFails device text identity tree (.file (.plainSystem error))
        (tree.append identity part)

section Refusals

variable {step : DeviceStep} {error : SystemError}
  (refuses : device.refuses step = some error)

include refuses

theorem WriteFails.refused_nothing :
    WriteFails device text identity tree (.file (.plainSystem error)) tree := by
  have nothing : WriteFails device text identity tree
      (.file (.plainSystem error)) (tree.append identity []) :=
    .refused refuses (.inl rfl)
  rwa [FileTree.append_nil] at nothing

theorem WriteFails.refused_all {bytes : List UInt8}
    (encoded : Utf8.encode text = .ok bytes) :
    WriteFails device text identity tree (.file (.plainSystem error))
      (tree.append identity bytes) :=
  .refused refuses (.inr ⟨[], by rw [encoded, List.append_nil]⟩)

end Refusals

/-- A text is written as far as the device takes it, or it has no
encoding. -/
theorem run_writeBytes_cases (device : Device) (text : Text)
    (identity : Nat) (tree : FileTree) :
    (∃ failure after,
      (writeBytes device identity text).run tree = (.error failure, after) ∧
      WriteFails device text identity tree failure after) ∨
    ∃ bytes, (writeBytes device identity text).run tree =
        (.ok ⟨⟩, tree.append identity bytes) ∧
      Utf8.encode text = .ok bytes ∧
      ∀ step ∈ [DeviceStep.write, .flush, .sync],
        device.refuses step = none := by
  rw [writeBytes]
  cases encoded : Utf8.encode text with
  | error fault => exact .inl ⟨_, _, rfl, .unencodable encoded⟩
  | ok bytes =>
      simp only
      have whole : bytes.take device.taken ++ bytes.drop device.taken = bytes :=
        List.take_append_drop ..
      have begins : BeginsText text (bytes.take device.taken) :=
        .inr ⟨bytes.drop device.taken, by rw [whole, encoded]⟩
      rw [run_bind_of_ok (run_append ..)]
      cases write : device.refuses .write with
      | some error =>
          rw [run_bind_of_error (run_step_of_some write _)]
          exact .inl ⟨_, _, rfl, .refused write begins⟩
      | none =>
          rw [run_bind_of_ok (run_step_of_none write _)]
          cases flush : device.refuses .flush with
          | some error =>
              rw [run_bind_of_error (run_step_of_some flush _)]
              exact .inl ⟨_, _, rfl, .refused flush begins⟩
          | none =>
              rw [run_bind_of_ok (run_step_of_none flush _),
                run_bind_of_ok (run_append ..), FileTree.append_append, whole]
              cases sync : device.refuses .sync with
              | some error =>
                  exact .inl ⟨_, _, run_step_of_some sync _,
                    .refused_all sync encoded⟩
              | none =>
                  exact .inr ⟨bytes, run_step_of_none sync _, rfl,
                    by simp [write, flush, sync]⟩

/-- A failure behind which a file is closed stays, or an error on closing
takes its place. -/
theorem WriteFails.closed {failure : FileFailure}
    {after : FileTree} (fails : WriteFails device text identity tree failure after) :
    ∃ last, (do
        FileAction.step device .close
        throw failure : FileAction Unit).run after = (.error last, after) ∧
      WriteFails device text identity tree last after := by
  cases close : device.refuses .close with
  | none => exact ⟨failure, run_bind_of_ok (run_step_of_none close _) _, fails⟩
  | some error =>
      refine ⟨_, run_bind_of_error (run_step_of_some close _) _, ?_⟩
      cases fails with
      | unencodable => exact .refused_nothing close
      | refused _ begins => exact .refused close begins

/-- A text is written and its file is closed, or a part of it is written and
a step of the device or the encoding has failed. -/
theorem run_writeText_cases (device : Device) (text : Text)
    (identity : Nat) (tree : FileTree) :
    (∃ failure after,
      (writeText device identity text).run tree = (.error failure, after) ∧
      WriteFails device text identity tree failure after) ∨
    ∃ bytes, (writeText device identity text).run tree =
        (.ok ⟨⟩, tree.append identity bytes) ∧
      Utf8.encode text = .ok bytes ∧
      ∀ step ∈ [DeviceStep.open, .write, .flush, .sync, .close],
        device.refuses step = none := by
  rw [writeText]
  cases opened : device.refuses .open with
  | some error =>
      rw [run_bind_of_error (run_step_of_some opened _)]
      exact .inl ⟨_, _, rfl, .refused_nothing opened⟩
  | none =>
      rw [run_bind_of_ok (run_step_of_none opened _)]
      rcases run_writeBytes_cases device text identity tree with
        ⟨failure, after, ends, fails⟩ | ⟨bytes, ends, encoded, taken⟩
      · obtain ⟨last, closes, failsLast⟩ := fails.closed
        have handled := run_tryCatch_of_error ends fun failure => do
          FileAction.step device .close
          throw failure
        rw [closes] at handled
        exact .inl ⟨last, after, run_bind_of_error handled _, failsLast⟩
      · rw [run_bind_of_ok (run_tryCatch_of_ok ends _)]
        cases close : device.refuses .close with
        | some error =>
            exact .inl ⟨_, _, run_step_of_some close _,
              .refused_all close encoded⟩
        | none =>
            refine .inr ⟨bytes, run_step_of_none close _, encoded, ?_⟩
            simpa [opened, close] using taken

/-- How filling a temporary file ends.  A text without an encoding leaves the
file as it is, an error of the system removes it, and otherwise the file has
taken the place of its target with the whole text. -/
inductive Fills (device : Device) (target : PathName) (text : Text)
    (created : PathName × Nat) (tree : FileTree) :
    Except FileFailure Unit × FileTree → Prop
  | unencodable {fault : Utf8.EncodeFault}
      (unencodable : Utf8.encode text = .error fault) :
      Fills device target text created tree (.error (.encoding fault), tree)
  | removed {fault : FileFault} {part : List UInt8}
      (begins : BeginsText text part)
      (blocked : device.TakesFiles → ∃ bytes error,
        Utf8.encode text = .ok bytes ∧
        (tree.append created.2 bytes).rename created.1 target =
          .error error) :
      Fills device target text created tree (.error (.file fault),
        (tree.append created.2 part).remove created.1)
  | moved {bytes : List UInt8} {after : FileTree}
      (encoded : Utf8.encode text = .ok bytes)
      (renamed : (tree.append created.2 bytes).rename created.1 target =
        .ok after)
      (taken : ∀ step, step ≠ .create → device.refuses step = none) :
      Fills device target text created tree (.ok ⟨⟩, after)

theorem fills_fillTemporary (device : Device) (target : PathName)
    (text : Text) (created : PathName × Nat) (tree : FileTree) :
    Fills device target text created tree
      ((fillTemporary device target text created).run tree) := by
  rw [fillTemporary]
  rcases run_writeText_cases device text created.2 tree with
    ⟨failure, after, ends, fails⟩ | ⟨bytes, ends, encoded, taken⟩
  · rw [run_tryCatch_of_error (run_bind_of_error ends _)]
    cases fails with
    | unencodable unencodable => exact .unencodable unencodable
    | refused refuses begins =>
        refine .removed begins fun taken => ?_
        rw [taken] at refuses
        cases refuses
  · have moves := run_rename device created.1 target
      (tree.append created.2 bytes)
    cases renamed : device.rename (tree.append created.2 bytes) created.1
      target with
    | error error =>
        rw [renamed] at moves
        rw [run_tryCatch_of_error ((run_bind_of_ok ends _).trans moves)]
        refine .removed (.inr ⟨[], by rw [encoded, List.append_nil]⟩)
          fun taken => ⟨bytes, error, encoded, ?_⟩
        rwa [Device.rename, taken, Device.unlessRefused_none] at renamed
    | ok after =>
        rw [renamed] at moves
        rw [run_tryCatch_of_ok ((run_bind_of_ok ends _).trans moves)]
        obtain ⟨renamed, takesRename⟩ :=
          Device.unlessRefused_eq_ok_iff.mp renamed
        refine .moved encoded renamed fun step other => ?_
        cases step with
        | create => exact absurd rfl other
        | rename => exact takesRename
        | _ => exact taken _ (by decide)

end FileAction

end VestingContract
