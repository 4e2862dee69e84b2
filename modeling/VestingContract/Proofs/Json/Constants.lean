import VestingContract.Proofs.Json.Nesting

/-!
# Numbers that are not finite

A reader refuses the name of a number that is not finite just where a value
may stand: behind lexemes that begin a document with a value in the place of
the name.  What comes behind the name plays no part.
-/

namespace VestingContract.Json

/-- Lexemes come to the name of a number that is not finite where a value may
stand, before too many containers enclose each other. -/
def MeetConstant (limit : Nat) (name : Text) (lexemes : List Lexeme) :
    Prop :=
  ∃ before after, lexemes = before ++ .nonFinite name :: after ∧
    (∃ document : Json, before ++ [.null] <+: document.lexemes) ∧
    ¬ BeginDeep limit before

theorem MeetConstant.mono {limit other : Nat} {name : Text}
    {lexemes : List Lexeme} (meets : MeetConstant limit name lexemes)
    (atMost : limit ≤ other) : MeetConstant other name lexemes := by
  obtain ⟨before, after, split, ofDocument, shallow⟩ := meets
  exact ⟨before, after, split, ofDocument,
    fun deep => shallow (deep.mono atMost)⟩

section Steps

variable {limit position : Nat} {reader next : Reader} {lexeme : Lexeme}

theorem Reader.step_nonFinite {name : Text}
    (step : Reader.step limit reader (position, lexeme) =
      .error (.nonFinite name)) :
    reader.point.wantsValue = true ∧ lexeme = .nonFinite name := by
  obtain ⟨wants, reads⟩ := readValue_of_step step nofun
  refine ⟨wants, ?_⟩
  cases lexeme with
  | nonFinite other =>
      cases reads
      rfl
  | beginArray | beginObject =>
      rw [readValue] at reads
      split at reads <;> cases reads
  | _ => cases reads

/-- A value can stand where nothing is taken for one. -/
theorem Reader.wantsValue_of_step_null
    (step : Reader.step limit reader (position, .null) = .ok next) :
    reader.point.wantsValue = true := by
  obtain ⟨point, frames⟩ := reader
  cases point with
  | value | valueOrEnd => rfl
  | _ => cases step

theorem Reader.step_of_wantsValue_nonFinite
    (wants : reader.point.wantsValue = true) (name : Text) :
    Reader.step limit reader (position, .nonFinite name) =
      .error (.nonFinite name) := by
  obtain ⟨point, frames⟩ := reader
  cases point with
  | value | valueOrEnd => rfl
  | _ => cases wants

end Steps

section Runs

variable {limit : Nat} {positioned : List (Nat × Lexeme)} {name : Text}

theorem meetConstant_of_foldlM_start
    (refused : positioned.foldlM (Reader.step limit) Reader.start =
      .error (.nonFinite name)) :
    MeetConstant limit name (positioned.map Prod.snd) := by
  obtain ⟨front, ⟨position, lexeme⟩, back, middle, rfl, runs, stops⟩ :=
    exists_of_foldlM_eq_error refused
  obtain ⟨wants, rfl⟩ := Reader.step_nonFinite stops
  have taken : middle.lexemes = front.map Prod.snd :=
    (Reader.lexemes_of_foldlM isSound_start runs).2
  refine ⟨front.map Prod.snd, back.map Prod.snd, by simp, ?_, ?_⟩
  · rw [← taken, Reader.lexemes_of_wantsValue wants]
    exact ⟨_, prefix_enclosed .null middle.frames⟩
  · intro deep
    obtain ⟨container, gaveUp⟩ := exists_tooDeep_of_beginDeep deep
    rw [runs] at gaveUp
    cases gaveUp

theorem foldlM_start_of_meetConstant
    (meets : MeetConstant limit name (positioned.map Prod.snd)) :
    positioned.foldlM (Reader.step limit) Reader.start =
      .error (.nonFinite name) := by
  obtain ⟨before, after, split, ⟨document, begins⟩, shallow⟩ := meets
  obtain ⟨front, later, rfl, rfl, laterEq⟩ := List.map_eq_append_iff.mp split
  obtain ⟨⟨position, lexeme⟩, back, rfl, rfl, -⟩ :=
    List.map_eq_cons_iff.mp laterEq
  -- With a limit that suits the document a value follows these lexemes.
  obtain ⟨behind, suits⟩ := Reader.foldlM_of_prefix
    (show (front ++ [(0, Lexeme.null)]).map Prod.snd <+: document.lexemes by
      simpa using begins)
  rw [List.foldlM_append] at suits
  obtain ⟨middle, runs, last⟩ := exists_of_bind_eq_ok suits
  rw [List.foldlM_cons] at last
  obtain ⟨next, step, -⟩ := exists_of_bind_eq_ok last
  have wants := Reader.wantsValue_of_step_null step
  rw [List.foldlM_append]
  rcases Reader.foldlM_of_foldlM limit runs with same | ⟨container, gaveUp⟩
  · rw [same]
    change List.foldlM (Reader.step limit) middle
      ((position, Lexeme.nonFinite name) :: back) = _
    rw [List.foldlM_cons, Reader.step_of_wantsValue_nonFinite wants]
    rfl
  · exact absurd (beginDeep_of_foldlM_start gaveUp) shallow

/-- Reading refuses a number just if the lexemes of the text meet it. -/
theorem read_nonFinite_iff {chars : List Char} :
    read limit chars = .error (.nonFinite name) ↔
      MeetConstant limit name ((lex chars).map Prod.snd) := by
  constructor
  · intro refused
    rw [read] at refused
    split at refused
    · cases refused
    · cases runs : (lex chars).foldlM (Reader.step limit) Reader.start with
      | error fault =>
          rw [runs] at refused
          cases refused
          exact meetConstant_of_foldlM_start runs
      | ok reader =>
          rw [runs] at refused
          have finished : reader.finish chars.length =
            .error (.nonFinite name) := refused
          rw [Reader.finish] at finished
          split at finished <;> cases finished
  · intro meets
    have refused := foldlM_start_of_meetConstant meets
    rw [read]
    split
    · next mark =>
        obtain ⟨rest, rfl⟩ := List.head?_eq_some_iff.mp mark
        obtain ⟨later, cut⟩ := exists_lex_byteOrderMark rest
        rw [cut] at refused
        cases refused
    · rw [refused]
      rfl

end Runs

section Words

theorem exists_word_of_firstLexeme {position length : Nat} {char : Char}
    {rest : List Char} {name : Text}
    (first : firstLexeme position char rest =
      (some (.nonFinite name), length)) :
    ∃ word, (word, Lexeme.nonFinite name) ∈ words ∧ word <+: char :: rest := by
  unfold firstLexeme at first
  split at first
  · cases first
  · split at first
    case h_7 => split at first <;> cases first
    case h_8 =>
      have isFirst : (wordOrNumber (char :: rest)).1 = .nonFinite name :=
        Option.some.inj (Prod.mk.inj first).1
      unfold wordOrNumber at isFirst
      split at isFirst
      · next word found =>
          obtain ⟨chars, lexeme⟩ := word
          obtain rfl : lexeme = .nonFinite name := isFirst
          have isPrefix := List.find?_some found
          exact ⟨chars, List.mem_of_find?_eq_some found,
            List.isPrefixOf_iff_prefix.mp isPrefix⟩
      · split at isFirst <;> cases isFirst
    all_goals cases first

theorem exists_word_of_lexFrom {position covered : Nat} {chars : List Char}
    {name : Text}
    (isLexeme : .nonFinite name ∈
      (lexFrom position covered chars).map Prod.snd) :
    ∃ word, (word, Lexeme.nonFinite name) ∈ words ∧ word <:+: chars := by
  induction chars generalizing position covered with
  | nil => simp [lexFrom] at isLexeme
  | cons char rest ih =>
      have later : ∀ {position covered : Nat},
          .nonFinite name ∈ (lexFrom position covered rest).map Prod.snd →
            ∃ word, (word, Lexeme.nonFinite name) ∈ words ∧
              word <:+: char :: rest := by
        intro position covered isLater
        obtain ⟨word, isWord, inside⟩ := ih isLater
        exact ⟨word, isWord, List.infix_cons inside⟩
      cases covered with
      | succ covered =>
          rw [lexFrom] at isLexeme
          exact later isLexeme
      | zero =>
          rw [lexFrom] at isLexeme
          rcases found : firstLexeme position char rest with
            ⟨_ | first, length⟩
          · rw [found] at isLexeme
            exact later isLexeme
          · rw [found, List.map_cons, List.mem_cons] at isLexeme
            rcases isLexeme with rfl | isLater
            · obtain ⟨word, isWord, begins⟩ := exists_word_of_firstLexeme found
              exact ⟨word, isWord, begins.isInfix⟩
            · exact later isLater

/-- A text in which a number that is not finite is met holds its name. -/
theorem MeetConstant.exists_word {limit : Nat} {name : Text}
    {chars : List Char}
    (meets : MeetConstant limit name ((lex chars).map Prod.snd)) :
    ∃ word, (word, Lexeme.nonFinite name) ∈ words ∧ word <:+: chars := by
  obtain ⟨before, after, split, -⟩ := meets
  exact @exists_word_of_lexFrom 0 0 chars name (by
    rw [lex] at split
    rw [split]
    simp)

end Words

end VestingContract.Json
