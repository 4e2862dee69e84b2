import VestingContract.Proofs.File.Interleaving

/-!
# Whole texts

Readers of a target find what was there at first or the whole text of one of
its writers, in every state that the writers reach.  A path that goes up from
a directory which is missing is the exception: it leads nowhere at first, and
once a writer has made the directory it leads to whatever stands there.
-/

namespace VestingContract.Writers

open FileTree

variable {Call : Type} {requests : Call → WriteRequest} {initial : FileTree}
  {state : Writers Call}

/-- What is seen of a place is what was seen at first, or the whole text of one
of its writers. -/
def FirstOrWhole (requests : Call → WriteRequest) (initial : FileTree)
    (place : List Text) (first now : Option (List UInt8)) : Prop :=
  now = first ∨ ∃ writer content, (requests writer).place initial = place ∧
    Utf8.encode (requests writer).text = .ok content ∧ now = some content

/-- What is found at the target of a writer is what was there at first or a
whole text, and it is a whole text once the writer has returned. -/
structure ShowsWholeText (requests : Call → WriteRequest)
    (initial : FileTree) (state : Writers Call) (call : Call) : Prop where
  content : FirstOrWhole requests initial ((requests call).place initial)
    (initial.content? ((requests call).place initial))
    (state.tree.content? ((requests call).place initial))
  read : (".." : Text) ∉ (requests call).target.names ∨
      (∃ place, initial.find (requests call).target = .ok place) →
    FirstOrWhole requests initial ((requests call).place initial)
      (initial.read (requests call).target).toOption
      (state.tree.read (requests call).target).toOption
  returned : state.phases call = .returned →
    ∃ writer content, state.phases writer = .returned ∧
      (requests writer).place initial = (requests call).place initial ∧
      Utf8.encode (requests writer).text = .ok content ∧
      state.tree.read (requests call).target = .ok content

namespace Invariant

variable {call : Call} (holds : Invariant requests initial state)
  (noTemporary : ∀ other,
    (requests call).place initial ≠ (requests other).temporaryPlace initial)

include holds noTemporary

theorem content :
    FirstOrWhole requests initial ((requests call).place initial)
      (initial.content? ((requests call).place initial))
      (state.tree.content? ((requests call).place initial)) := by
  rcases holds.settled _ noTemporary with
    ⟨same, -⟩ | ⟨writer, content, -, isPlace, encoded, here⟩
  · exact .inl same
  · exact .inr ⟨writer, content, isPlace, encoded, here⟩

/-- A file that could be read keeps its place, since no directory goes. -/
theorem exists_read (wellFormed : initial.WellFormed)
    {first : List UInt8}
    (found : initial.read (requests call).target = .ok first) :
    ∃ now, state.tree.read (requests call).target = .ok now := by
  obtain ⟨directory, name, leads, placeEq, here⟩ :=
    wellFormed.exists_leads_of_read found
  have isThere : ∃ now,
      state.tree.content? ((requests call).place initial) = some now := by
    rcases holds.content noTemporary with same | ⟨_, now, -, -, there⟩
    · exact ⟨first, same.trans here⟩
    · exact ⟨now, there⟩
  obtain ⟨now, there⟩ := isThere
  refine ⟨now, read_of_leads
    (leads.of_keepsDirectories holds.directories) ?_⟩
  rw [placeEq]
  exact there

/-- Only a path with steps upward that led nowhere can begin to lead to what
no writer has written. -/
theorem read (wellFormed : initial.WellFormed)
    (follows : (".." : Text) ∉ (requests call).target.names ∨
      ∃ place, initial.find (requests call).target = .ok place) :
    FirstOrWhole requests initial ((requests call).place initial)
      (initial.read (requests call).target).toOption
      (state.tree.read (requests call).target).toOption := by
  cases found : state.tree.read (requests call).target with
  | error error =>
      left
      cases before : initial.read (requests call).target with
      | error other => rfl
      | ok first =>
          obtain ⟨now, there⟩ :=
            holds.exists_read noTemporary wellFormed before
          rw [there] at found
          cases found
  | ok now =>
      obtain ⟨-, -, -, -, here⟩ :=
        holds.wellFormed.exists_leads_of_read found
      have placeEq : (state.tree.absolute (requests call).target).names =
          (requests call).place initial :=
        WriteRequest.place_of_keepsDirectories holds.directories _
      rw [placeEq] at here
      rcases holds.content noTemporary with
        same | ⟨writer, content, isPlace, encoded, there⟩
      · left
        rw [here] at same
        have followed :
            ∃ place, initial.find (requests call).target = .ok place := by
          rcases follows with noStep | followed
          · exact wellFormed.exists_find_of_read holds.wellFormed noStep
              holds.directories.workingDirectory found
              (placeEq ▸ same.symm)
          · exact followed
        obtain ⟨place, goal⟩ := followed
        rw [wellFormed.read_of_find goal same.symm]
      · exact .inr ⟨writer, content, isPlace, encoded, here.symm.trans there⟩

theorem returned (hasReturned : state.phases call = .returned) :
    ∃ writer content, state.phases writer = .returned ∧
      (requests writer).place initial = (requests call).place initial ∧
      Utf8.encode (requests writer).text = .ok content ∧
      state.tree.read (requests call).target = .ok content := by
  have sound := holds.sound call
  rw [hasReturned] at sound
  obtain ⟨directory, name, leads, placeEq⟩ := sound
  rw [WriteRequest.place_of_keepsDirectories holds.directories] at placeEq
  rcases holds.settled _ noTemporary with
    ⟨-, waiting⟩ | ⟨writer, content, isReturned, isPlace, encoded, here⟩
  · exact absurd hasReturned (waiting call rfl)
  · refine ⟨writer, content, isReturned, isPlace, encoded, ?_⟩
    rw [← placeEq] at here
    exact read_of_leads leads here

end Invariant

/-- However the steps of any writers are interleaved, and whichever of them
fail or stop, nothing but a whole text is ever seen in the place of a
target. -/
theorem showsWholeText_of_reachable [DecidableEq Call]
    (wellFormed : initial.WellFormed)
    (apart : ∀ call other, call ≠ other →
      (requests call).place initial ≠ (requests other).temporaryPlace initial)
    (reached : Reachable requests initial state) (call : Call) :
    ShowsWholeText requests initial state call := by
  have noTemporary : ∀ call other, (requests call).place initial ≠
      (requests other).temporaryPlace initial := by
    intro call other
    by_cases same : call = other
    · subst same
      exact FileAction.absolute_ne_temporary _ _
    · exact apart call other same
  have holds := invariant_of_reachable noTemporary wellFormed reached
  exact ⟨holds.content (noTemporary call),
    holds.read (noTemporary call) wellFormed,
    holds.returned (noTemporary call)⟩

section Rivals

/-- Two writers of one target. -/
def rival (first : Bool) : WriteRequest where
  target := ⟨0, [("out.sol" : Text)]⟩
  text := if first then "ab" else "cd"
  number := if first then 0 else 1

/-- A target with the temporary files of its writers. -/
def contested (next : Nat) (target : Node)
    (temporaries : List (Bool × Node)) : FileTree where
  nodes := ([("out.sol" : Text)], target) ::
    temporaries.map fun (first, node) =>
      ([FileAction.temporaryName "out.sol" (rival first).number], node)
  workingDirectory := []
  nextIdentity := next

/-- The target before its writers begin. -/
def uncontested : FileTree :=
  contested 1 (.file 0 [111]) []

theorem uncontested_wellFormed : uncontested.WellFormed := by
  apply wellFormed_of_root rfl
  · intro entry member
    obtain rfl := List.mem_singleton.mp member
    exact ⟨_, rfl, by decide⟩
  · intro entry member identity content same
    obtain rfl := List.mem_singleton.mp member
    cases same
    exact Nat.zero_lt_one

/-- One of two writers has returned when the other one has written half of its
text. -/
theorem reachable_rivals : ∃ state, Reachable rival uncontested state ∧
    state.phases true = .returned ∧
    state.phases false = .opened 2 (.writing [100]) := by
  have ensured : ∀ next target temporaries,
      (FileAction.ensureDirectory ⟨0, []⟩).run
        (contested next target temporaries) =
          (.ok ⟨⟩, contested next target temporaries) := fun _ _ _ => rfl
  have encoded : Utf8.encode (rival true).text = .ok [97, 98] := rfl
  have encodedOther : Utf8.encode (rival false).text = .ok [99, 100] := rfl
  have created : uncontested.createNew ((rival true).temporary uncontested) =
      .ok (1, contested 2 (.file 0 [111]) [(true, .file 1 [])]) := by
    decide +kernel
  have createdOther : (contested 2 (.file 0 [111])
        [(true, .file 1 [])]).createNew ((rival false).temporary uncontested) =
      .ok (2, contested 3 (.file 0 [111])
        [(true, .file 1 []), (false, .file 2 [])]) := by
    decide +kernel
  have renamed : (contested 3 (.file 0 [111])
        [(true, .file 1 [97, 98]), (false, .file 2 [99])]).rename
          ((rival true).temporary uncontested) (rival true).target =
      .ok (contested 3 (.file 1 [97, 98]) [(false, .file 2 [99])]) := by
    decide +kernel
  have begun : Reachable rival uncontested (start uncontested) := .refl
  have opened := ((begun.move true (.prepare (ensured ..))).move true
    (.create created)).move true (.encode encoded)
  have bothOpened := ((opened.move false (.prepare (ensured ..))).move false
    (.create createdOther)).move false (.encode encodedOther)
  have written := ((bothOpened.move true (.write [97, 98] [])).move false
    (.write [99] [100])).move true .sync
  exact ⟨_, written.move true (.rename renamed), rfl, rfl⟩

theorem showsWholeText_rivals : ∃ state, Reachable rival uncontested state ∧
    state.phases false = .opened 2 (.writing [100]) ∧
    ShowsWholeText rival uncontested state false := by
  obtain ⟨state, reached, -, half⟩ := reachable_rivals
  exact ⟨state, reached, half, showsWholeText_of_reachable
    uncontested_wellFormed (by decide +kernel) reached false⟩

end Rivals

section Detour

/-- A writer whose target goes up from a directory that is missing. -/
def detour : WriteRequest where
  target := ⟨0, [("d" : Text), "..", "out.sol"]⟩
  text := "new"
  number := 0

/-- The directory that a writer makes can lead to a file that was there all
the time and that has the text of no writer. -/
theorem detour_leads_to_other_file :
    ¬ ∀ (Call : Type) [DecidableEq Call] (requests : Call → WriteRequest)
      (initial : FileTree) (state : Writers Call), initial.WellFormed →
      (∀ call other, call ≠ other → (requests call).place initial ≠
        (requests other).temporaryPlace initial) →
      (∀ call other,
        (requests call).place initial <+: (requests other).place initial →
          (requests call).place initial = (requests other).place initial) →
      (∀ call place, initial.find (requests call).target ≠
        .ok (.present place .directory)) →
      Reachable requests initial state → ∀ call,
        (state.tree.read (requests call).target).toOption =
            (initial.read (requests call).target).toOption ∨
          ∃ writer now, Utf8.encode (requests writer).text = .ok now ∧
            state.tree.read (requests call).target = .ok now := by
  intro claim
  rcases ensured : (FileAction.ensureDirectory
    detour.target.parent).run uncontested with ⟨result, after⟩
  have outcome : ((FileAction.ensureDirectory
        detour.target.parent).run uncontested).1 = .ok ⟨⟩ ∧
      ((FileAction.ensureDirectory
        detour.target.parent).run uncontested).2.read detour.target =
          .ok [111] := by
    decide +kernel
  rw [ensured] at outcome
  obtain ⟨rfl, found⟩ := outcome
  have missing : uncontested.find detour.target = .error .noEntry := by
    decide +kernel
  have unread : uncontested.read detour.target = .error .noEntry := by
    decide +kernel
  have begun : Reachable (fun _ => detour) uncontested
    (alone uncontested .waiting) := .refl
  rcases claim Unit (fun _ => detour) uncontested (alone after .prepared)
      uncontested_wellFormed (fun _ _ different => absurd rfl different)
      (fun _ _ _ => rfl)
      (fun _ _ same => by rw [missing] at same; cases same)
      (begun.move_alone (.prepare ensured)) () with
    same | ⟨writer, now, encoded, here⟩
  · rw [unread, alone, found] at same
    cases same
  · rw [alone, found] at here
    cases here
    exact absurd encoded (by decide)

end Detour

end VestingContract.Writers
