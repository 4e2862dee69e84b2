import VestingContract.Proofs.File.Ownership
import VestingContract.Proofs.File.WholeTree

/-!
# What a failed replacement leaves behind

The temporary file of a replacement is removed when the system reports an
error, at whatever step the device refuses.  That a text has no encoding is
noticed when the file is there, and it is no error of the system, so this
failure alone leaves the file behind.  It does so wherever another text could
have been written.
-/

namespace VestingContract.FileAction

open FileTree Stateful

section Kinds

variable {α : Type}

/-- Work that does not look at a text, so that none can lack an encoding. -/
def LooksAtNoText (work : FileAction α) : Prop :=
  Ensures (fun _ => True) work (fun _ _ => True)
    (fun failure _ => ∀ fault, failure ≠ .encoding fault)

theorem ne_encoding_of_lookedUp {path : PathName}
    {found : Except SystemError α} {failure : FileFailure}
    (looked : lookedUp path found = .error failure) :
    ∀ fault, failure ≠ .encoding fault := by
  rintro fault rfl
  unfold lookedUp at looked
  split at looked
  · cases looked
  · cases found <;> cases looked

theorem looksAtNoText_throw {failure : FileFailure}
    (other : ∀ fault, failure ≠ .encoding fault) :
    LooksAtNoText (throw failure : FileAction α) :=
  .throw fun _ _ => other

theorem looksAtNoText_tryCatch {work : FileAction α}
    (looks : LooksAtNoText work) {handler : FileFailure → FileAction α}
    (handles : ∀ failure, (∀ fault, failure ≠ .encoding fault) →
      LooksAtNoText (handler failure)) :
    LooksAtNoText (tryCatch work handler) := by
  apply Ensures.tryCatch looks
  intro failure tree other
  exact handles failure other tree trivial

theorem looksAtNoText_bind {β : Type} {work : FileAction α}
    (looks : LooksAtNoText work) {next : α → FileAction β}
    (later : ∀ value, LooksAtNoText (next value)) :
    LooksAtNoText (work >>= next) :=
  Ensures.bind looks fun value => later value

variable (path : PathName) (device : Device)

theorem looksAtNoText_ofRead
    (operation : FileTree → Except SystemError α) :
    LooksAtNoText (ofRead path operation) := by
  intro tree _ result after ends
  rw [run_ofRead] at ends
  cases looked : lookedUp path (operation tree) with
  | ok value =>
      rw [looked] at ends
      cases ends
      trivial
  | error failure =>
      rw [looked] at ends
      cases ends
      exact ne_encoding_of_lookedUp looked

theorem looksAtNoText_set (tree : FileTree) :
    LooksAtNoText (set tree : FileAction Unit) :=
  .of_run_eq (fun _ => rfl) fun _ _ => trivial

theorem looksAtNoText_ofChange
    (operation : FileTree → Except SystemError FileTree) :
    LooksAtNoText (ofChange path operation) :=
  looksAtNoText_bind (looksAtNoText_ofRead path operation) looksAtNoText_set

theorem looksAtNoText_ofUpdate
    (operation : FileTree → Except SystemError (α × FileTree)) :
    LooksAtNoText (ofUpdate path operation) := by
  apply looksAtNoText_bind (looksAtNoText_ofRead path operation)
  rintro ⟨value, tree⟩
  exact looksAtNoText_bind (looksAtNoText_set tree)
    fun _ => .pure fun _ _ => trivial

theorem looksAtNoText_isDirectory : LooksAtNoText (isDirectory path) := by
  intro tree _ result after ends
  have looked := run_node? path tree
  rcases seen_cases path tree with
    ⟨fault, seenEq⟩ | seenEq | ⟨_, node, -, -, seenEq⟩
  all_goals rw [seenEq] at looked
  · rw [isDirectory, run_bind_of_error looked] at ends
    cases ends
    simp
  · rw [isDirectory, run_bind_of_ok looked] at ends
    cases ends
    trivial
  · rw [isDirectory, run_bind_of_ok looked] at ends
    cases node <;> cases ends <;> trivial

theorem looksAtNoText_ensureOne : LooksAtNoText (ensureOne path device) := by
  apply looksAtNoText_tryCatch (looksAtNoText_ofChange path _)
  intro failure other
  split
  · exact looksAtNoText_throw other
  · exact looksAtNoText_throw other
  · apply looksAtNoText_bind (looksAtNoText_isDirectory path)
    intro isThere
    cases isThere with
    | false => exact looksAtNoText_throw other
    | true => exact .pure fun _ _ => trivial

theorem looksAtNoText_ensureReversed (slashes : Nat) (names : List Text) :
    LooksAtNoText (ensureReversed device slashes names) := by
  induction names with
  | nil => exact looksAtNoText_ensureOne _ _
  | cons last above ih =>
      rw [ensureReversed]
      apply looksAtNoText_tryCatch (looksAtNoText_ensureOne _ _)
      intro failure other
      split
      · exact looksAtNoText_bind ih fun _ => looksAtNoText_ensureOne _ _
      · exact looksAtNoText_throw other

theorem looksAtNoText_createTemporary (target : PathName)
    (number attempts : Nat) :
    LooksAtNoText (createTemporary device target number attempts) := by
  induction attempts generalizing number with
  | zero => exact looksAtNoText_throw (by simp)
  | succ attempts ih =>
      rw [createTemporary]
      apply looksAtNoText_bind (.get fun _ _ => trivial)
      intro tree
      apply looksAtNoText_tryCatch
      · exact looksAtNoText_bind (looksAtNoText_ofUpdate _ _)
          fun _ => .pure fun _ _ => trivial
      · intro failure other
        split
        · exact ih (number + 1)
        · exact looksAtNoText_throw other

theorem looksAtNoText_makeTemporary (target : PathName) :
    LooksAtNoText (makeTemporary device target) := by
  apply looksAtNoText_bind (looksAtNoText_ensureReversed _ _ _)
  intro _
  apply looksAtNoText_bind (.get fun _ _ => trivial)
  intro tree
  exact looksAtNoText_createTemporary device target _ _

end Kinds

section Leftovers

variable {device : Device} {tree : FileTree} (wellFormed : tree.WellFormed)
  (target : PathName)

/-- The files of a tree with an empty one at a temporary name beside a target,
which was free. -/
structure GainsTemporary (target : PathName) (number : Nat)
    (tree after : FileTree) : Prop where
  free : tree.node? ((tree.absolute target.parent).names ++
    [temporaryName target.name number]) = none
  gained : after.content? ((tree.absolute target.parent).names ++
    [temporaryName target.name number]) = some []
  others : ∀ path, path ≠ (tree.absolute target.parent).names ++
      [temporaryName target.name number] →
    after.content? path = tree.content? path

theorem GainsTemporary.of_createAt {base : FileTree}
    {directory : List Text} {number : Nat}
    (wellFormedBase : base.WellFormed) (only : tree.OnlyDirectories base)
    (leads : base.Leads ((base.absolute target.parent).child
      (temporaryName target.name number)) directory
        (temporaryName target.name number))
    (absent :
      base.node? (directory ++ [temporaryName target.name number]) = none) :
    GainsTemporary target number tree
      (base.createAt (directory ++ [temporaryName target.name number])).2 := by
  have beside := directory_of_temporary wellFormedBase target leads
  rw [only.keepsDirectories.absolute_eq] at beside
  subst beside
  have notRoot : (tree.absolute target.parent).names ++
      [temporaryName target.name number] ≠ [] := by simp
  have nodes := node?_createAt base notRoot
  refine ⟨?_, ?_, fun path other => ?_⟩
  · rcases only.nodes ((tree.absolute target.parent).names ++
      [temporaryName target.name number]) with same | ⟨wasAbsent, -⟩
    · rw [← same, absent]
    · exact wasAbsent
  · rw [content?_eq_some_iff]
    exact ⟨base.nextIdentity, by rw [nodes, if_pos rfl]⟩
  · apply content?_eq_of_files
    intro identity content
    rw [nodes, if_neg other, only.node?_file_iff]

/-- Only for a text without an encoding does a replacement fail for want of
one. -/
theorem looksAtNoText_replaceText {text : Text} {bytes : List UInt8}
    (encoded : Utf8.encode text = .ok bytes) :
    LooksAtNoText (replaceText device target text) := by
  apply looksAtNoText_bind (looksAtNoText_makeTemporary device target)
  intro created tree _ result after ends
  have fills := fills_fillTemporary device target text created tree
  rw [ends] at fills
  cases fills with
  | unencodable unencodable =>
      rw [encoded] at unencodable
      cases unencodable
  | removed => simp
  | moved => trivial

include wellFormed

/-- A text without an encoding is not written: its replacement fails where no
text can be written, or it leaves its temporary file behind. -/
theorem replaceText_of_encode_error {text : Text} {fault : Utf8.EncodeFault}
    (unencodable : Utf8.encode text = .error fault) :
    (∃ failure after, (∀ other, failure ≠ .encoding other) ∧
      (replaceText device target text).run tree = (.error failure, after) ∧
      ∀ other written,
        (replaceText device target other).run tree ≠ (.ok ⟨⟩, written)) ∨
    ∃ number after, (replaceText device target text).run tree =
        (.error (.encoding fault), after) ∧
      GainsTemporary target number tree after := by
  rcases makeTemporary_cases target wellFormed with
    ⟨failure, base, fails, -, -, -⟩ |
      ⟨base, directory, number, -, wellFormedBase, only, -, leads, absent,
        takesNew, makes⟩
  · refine .inl ⟨failure, base, ?_, ?_, fun other written ends => ?_⟩
    · exact looksAtNoText_makeTemporary device target tree trivial _ _ fails
    · rw [replaceText, run_bind_of_error fails]
    · rw [replaceText, run_bind_of_error fails] at ends
      cases ends
  · have fillsAny := fun text => fills_fillTemporary device target text
      ((base.absolute target.parent).child
        (temporaryName target.name number), base.nextIdentity)
      (base.createAt (directory ++ [temporaryName target.name number])).2
    have fills := fillsAny text
    simp only [replaceText, run_bind_of_ok makes]
    rcases ends : (fillTemporary device target text _).run
      (base.createAt (directory ++ [temporaryName target.name number])).2 with
      ⟨result, after⟩
    rw [ends] at fills
    cases fills with
    | unencodable same =>
        rw [unencodable] at same
        cases same
        exact .inr ⟨number, _, rfl, .of_createAt target wellFormedBase
          only.toOnlyDirectories leads absent⟩
    | removed begins blocked =>
        refine .inl ⟨_, _, by simp, rfl, fun other written succeeds => ?_⟩
        -- Whatever text is written, the device has taken all steps for it.
        have fillsOther := fillsAny other
        rw [succeeds] at fillsOther
        cases fillsOther with
        | moved _ _ taken =>
            have takes : device.TakesFiles := by
              intro step
              by_cases isCreate : step = .create
              · rw [isCreate, takesNew]
              · exact taken step isCreate
            obtain ⟨bytes, error, encoded, -⟩ := blocked takes
            rw [unencodable] at encoded
            cases encoded
    | moved encoded =>
        rw [unencodable] at encoded
        cases encoded

/-- A replacement that fails leaves the files as they were, whatever step the
device refuses, unless it fails because the text has no encoding.  Then it
leaves an empty file at a temporary name beside its target and no other one,
and it does so wherever another text can be written. -/
theorem replaceText_leftovers (device : Device) (target : PathName)
    (text : Text) :
    (∀ failure after,
      (replaceText device target text).run tree = (.error failure, after) →
      (∀ fault, failure ≠ .encoding fault) →
      ∀ path, after.content? path = tree.content? path) ∧
    (∀ fault after,
      (replaceText device target text).run tree = (.error (.encoding fault), after) →
      Utf8.encode text = .error fault ∧
        ∃ number, GainsTemporary target number tree after) ∧
    ∀ fault, Utf8.encode text = .error fault → ∀ other written,
      (replaceText device target other).run tree = (.ok ⟨⟩, written) →
      ∃ after, (replaceText device target text).run tree =
        (.error (.encoding fault), after) := by
  refine ⟨fun failure after fails noEncoding path => ?_,
    fun fault after fails => ?_, fun fault unencodable other written ends => ?_⟩
  · rcases replaceText_cases target wellFormed text with
      ⟨_, _, ends, spares⟩ | ⟨_, _, _, ends, -, -, -⟩
    · rw [fails] at ends
      cases ends
      have same := spares.same noEncoding
      exact content?_eq_of_files fun identity content =>
        same.files path identity content id
    · rw [fails] at ends
      cases ends
  · cases encoded : Utf8.encode text with
    | ok bytes =>
        -- A text that has an encoding cannot fail for want of one.
        have never := looksAtNoText_replaceText target encoded tree trivial _ _
          fails
        exact absurd rfl (never fault)
    | error unencodable =>
        rcases replaceText_of_encode_error wellFormed target encoded with
          ⟨_, _, never, ends, -⟩ | ⟨number, _, ends, gains⟩
        · rw [fails] at ends
          cases ends
          exact absurd rfl (never fault)
        · rw [fails] at ends
          cases ends
          exact ⟨rfl, number, gains⟩
  · rcases replaceText_of_encode_error wellFormed target unencodable with
      ⟨_, _, -, -, never⟩ | ⟨_, after, leaves, -⟩
    · exact absurd ends (never other written)
    · exact ⟨after, leaves⟩

end Leftovers

section Surrogates

/-- A lone surrogate is not written beside a file, and an empty temporary file
stays.  On a device that is full no file stays. -/
theorem replaceText_leftovers_surrogate :
    siblings.WellFormed ∧
    (∃ fault number after,
      (replaceText .sound ⟨0, ["new.sol"]⟩ [.surrogate 0]).run siblings =
        (.error (.encoding fault), after) ∧
      GainsTemporary ⟨0, ["new.sol"]⟩ number siblings after) ∧
    ∃ failure after,
      (replaceText fullDevice ⟨0, ["new.sol"]⟩ "new").run siblings =
        (.error failure, after) ∧
      ∀ path, after.content? path = siblings.content? path := by
  refine ⟨siblings_wellFormed, ?_, ?_⟩
  · obtain ⟨-, leaves, noticed⟩ := replaceText_leftovers siblings_wellFormed
      .sound ⟨0, ["new.sol"]⟩ [.surrogate 0]
    have succeeds : ((replaceText .sound ⟨0, ["new.sol"]⟩ "new").run
        siblings).1 = .ok ⟨⟩ := by decide +kernel
    rcases writes : (replaceText .sound ⟨0, ["new.sol"]⟩ "new").run
      siblings with ⟨result, written⟩
    rw [writes] at succeeds
    obtain rfl : result = .ok ⟨⟩ := succeeds
    obtain ⟨after, fails⟩ := noticed _ rfl "new" written writes
    obtain ⟨-, number, gains⟩ := leaves _ after fails
    exact ⟨_, number, after, fails, gains⟩
  · obtain ⟨cleans, -, -⟩ := replaceText_leftovers siblings_wellFormed
      fullDevice ⟨0, ["new.sol"]⟩ "new"
    have refused : ((replaceText fullDevice ⟨0, ["new.sol"]⟩ "new").run
        siblings).1 = .error (.file (.plainSystem .noSpace)) := by
      decide +kernel
    rcases ends : (replaceText fullDevice ⟨0, ["new.sol"]⟩ "new").run
      siblings with ⟨result, after⟩
    rw [ends] at refused
    obtain rfl : result = .error (.file (.plainSystem .noSpace)) := refused
    exact ⟨_, after, rfl, cleans _ after ends (by simp)⟩

/-- Not every replacement that fails leaves the files as they were. -/
theorem replaceText_leaves_file :
    ¬ ∀ (tree : FileTree) (device : Device) (target : PathName) (text : Text)
      (failure : FileFailure) (after : FileTree), tree.WellFormed →
      (replaceText device target text).run tree = (.error failure, after) →
      ∀ path, after.content? path = tree.content? path := by
  intro claim
  let place : List Text :=
    [temporaryName "new.sol" siblings.nextIdentity]
  have outcome : ((replaceText .sound ⟨0, ["new.sol"]⟩ [.surrogate 0]).run
        siblings).1.isOk = false ∧
      ((replaceText .sound ⟨0, ["new.sol"]⟩ [.surrogate 0]).run
        siblings).2.content? place = some [] ∧
      siblings.content? place = none := by
    decide +kernel
  rcases ends : (replaceText .sound ⟨0, ["new.sol"]⟩ [.surrogate 0]).run
    siblings with ⟨result, after⟩
  rw [ends] at outcome
  obtain ⟨fails, left, absent⟩ := outcome
  cases result with
  | ok value => cases fails
  | error failure =>
      have same := claim siblings .sound _ _ failure after siblings_wellFormed ends
        place
      rw [left, absent] at same
      cases same

end Surrogates

end VestingContract.FileAction
