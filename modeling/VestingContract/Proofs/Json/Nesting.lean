import VestingContract.Proofs.Json.Flattening
import VestingContract.Proofs.Run.Results

/-!
# Documents that are nested too deeply

A reader with a limit gives up just if the lexemes begin like those of a
document in which more containers enclose each other than the limit allows.
What comes behind this beginning plays no part, so the text need not be a
document.
-/

namespace VestingContract.Json

section Counting

/-- How a lexeme changes the number of open containers. -/
def Lexeme.turn : Lexeme → Int
  | .beginArray | .beginObject => 1
  | .endArray | .endObject => -1
  | _ => 0

/-- The number of containers that are open behind lexemes. -/
def openAfter : List Lexeme → Int
  | [] => 0
  | lexeme :: lexemes => lexeme.turn + openAfter lexemes

@[simp]
theorem openAfter_nil : openAfter [] = 0 := rfl

@[simp]
theorem openAfter_cons (lexeme : Lexeme) (lexemes : List Lexeme) :
    openAfter (lexeme :: lexemes) = lexeme.turn + openAfter lexemes := rfl

@[simp]
theorem openAfter_append (first second : List Lexeme) :
    openAfter (first ++ second) = openAfter first + openAfter second := by
  induction first with
  | nil => simp
  | cons lexeme first ih =>
      rw [List.cons_append, openAfter_cons, ih, openAfter_cons]
      omega

mutual

/-- A document closes what it opens. -/
theorem openAfter_lexemes : (document : Json) → openAfter document.lexemes = 0
  | null | bool _ | number _ | text _ | array [] | object [] => rfl
  | array (item :: items) => by
      have first := openAfter_lexemes item
      have later := openAfter_laterItems items
      simp only [lexemes, openAfter_cons, openAfter_append, Lexeme.turn]
      omega
  | object ((name, member) :: members) => by
      have first := openAfter_lexemes member
      have later := openAfter_laterMembers members
      simp only [lexemes, openAfter_cons, openAfter_append, Lexeme.turn]
      omega

theorem openAfter_laterItems :
    (items : List Json) → openAfter (laterItems items) = -1
  | [] => rfl
  | item :: items => by
      have first := openAfter_lexemes item
      have later := openAfter_laterItems items
      simp only [laterItems, openAfter_cons, openAfter_append, Lexeme.turn]
      omega

theorem openAfter_laterMembers :
    (members : List (Text × Json)) → openAfter (laterMembers members) = -1
  | [] => rfl
  | (name, member) :: members => by
      have first := openAfter_lexemes member
      have later := openAfter_laterMembers members
      simp only [laterMembers, openAfter_cons, openAfter_append, Lexeme.turn]
      omega

end

theorem openAfter_itemsSoFar (items : List Json) :
    openAfter (itemsSoFar items) = 0 := by
  induction items with
  | nil => rfl
  | cons item items ih =>
      simp [itemsSoFar_cons, ih, openAfter_lexemes, Lexeme.turn]

theorem openAfter_membersSoFar (members : List (Text × Json)) :
    openAfter (membersSoFar members) = 0 := by
  induction members with
  | nil => rfl
  | cons member members ih =>
      simp [membersSoFar_cons, memberLexemes, ih, openAfter_lexemes,
        Lexeme.turn]

theorem openAfter_framesLexemes (frames : List Frame) :
    openAfter (framesLexemes frames) = frames.length := by
  induction frames with
  | nil => rfl
  | cons frame frames ih =>
      cases frame <;>
        simp [framesLexemes, Frame.lexemes, ih, openAfter_itemsSoFar,
          openAfter_membersSoFar, Lexeme.turn]

theorem Reader.lexemes_of_wantsValue {reader : Reader}
    (wants : reader.point.wantsValue = true) :
    reader.lexemes = framesLexemes reader.frames := by
  obtain ⟨point, frames⟩ := reader
  cases point with
  | value | valueOrEnd => exact List.append_nil _
  | _ => cases wants

theorem Reader.openAfter_of_wantsValue {reader : Reader}
    (wants : reader.point.wantsValue = true) :
    openAfter reader.lexemes = reader.frames.length := by
  rw [lexemes_of_wantsValue wants, openAfter_framesLexemes]

end Counting

section Steps

variable {limit position : Nat} {reader next : Reader} {lexeme : Lexeme}

/-- Text that is not malformed is refused only where a value may stand. -/
theorem Reader.readValue_of_step {fault : Fault}
    (step : Reader.step limit reader (position, lexeme) = .error fault)
    (noReason : ∀ reason place, fault ≠ .malformed reason place) :
    reader.point.wantsValue = true ∧
      readValue limit reader.frames position lexeme = .error fault := by
  have ofName : ∀ members,
      readName members reader.frames position lexeme ≠ .error fault := by
    intro members reads
    cases lexeme <;> cases reads <;> exact noReason _ _ rfl
  obtain ⟨point, frames⟩ := reader
  simp only [Reader.step] at step
  split at step
  · cases frames with
    | nil =>
        cases step
        exact absurd rfl (noReason _ _)
    | cons frame frames =>
        cases frame <;> cases step
        exact absurd rfl (noReason _ _)
  · exact ⟨rfl, step⟩
  · exact ⟨rfl, step⟩
  · cases step
  · exact absurd step (ofName _)
  · exact absurd step (ofName _)
  all_goals cases step
  all_goals exact absurd rfl (noReason _ _)

/-- A reader gives up only before a container that it is not to open any
more. -/
theorem Reader.step_tooDeep {container : Container}
    (step : Reader.step limit reader (position, lexeme) =
      .error (.tooDeep container)) :
    reader.point.wantsValue = true ∧ limit ≤ reader.frames.length ∧
      (lexeme = .beginArray ∨ lexeme = .beginObject) := by
  obtain ⟨wants, reads⟩ := readValue_of_step step nofun
  refine ⟨wants, ?_⟩
  cases lexeme with
  | beginArray | beginObject =>
      rw [readValue] at reads
      split at reads
      · next full => simp [full]
      · cases reads
  | _ => cases reads

/-- With another limit a reader takes the same step or gives up. -/
theorem Reader.step_of_step (other : Nat)
    (step : Reader.step limit reader (position, lexeme) = .ok next) :
    Reader.step other reader (position, lexeme) = .ok next ∨
      ∃ container, Reader.step other reader (position, lexeme) =
        .error (.tooDeep container) := by
  have ofValue : readValue limit reader.frames position lexeme = .ok next →
      readValue other reader.frames position lexeme = .ok next ∨
        ∃ container, readValue other reader.frames position lexeme =
          .error (.tooDeep container) := by
    intro reads
    cases lexeme with
    | beginArray | beginObject =>
        rw [readValue] at reads ⊢
        split at reads
        · cases reads
        · split
          · exact .inr ⟨_, rfl⟩
          · exact .inl reads
    | _ => exact .inl reads
  obtain ⟨point, frames⟩ := reader
  simp only [Reader.step] at step ⊢
  split at step
  · exact .inl step
  · exact ofValue step
  · exact ofValue step
  all_goals exact .inl step

/-- A step keeps the number of open containers below the limit. -/
theorem Reader.openAfter_step_le (sound : reader.IsSound)
    (within : openAfter reader.lexemes ≤ limit)
    (step : Reader.step limit reader (position, lexeme) = .ok next) :
    openAfter next.lexemes ≤ limit := by
  obtain ⟨-, taken⟩ := takes_step sound step
  rw [taken, openAfter_append, openAfter_cons, openAfter_nil]
  by_cases opens : lexeme = .beginArray ∨ lexeme = .beginObject
  · obtain ⟨wants, room⟩ : reader.point.wantsValue = true ∧
        reader.frames.length < limit := by
      obtain ⟨point, frames⟩ := reader
      rcases opens with rfl | rfl
      all_goals
        cases point with
        | value | valueOrEnd =>
            refine ⟨rfl, ?_⟩
            simp only [Reader.step, readValue] at step
            split at step
            · cases step
            · next room => exact not_le.mp room
        | _ => cases step
    have single : lexeme.turn = 1 := by rcases opens with rfl | rfl <;> rfl
    rw [openAfter_of_wantsValue wants, single]
    omega
  · have closes : lexeme.turn ≤ 0 := by
      cases lexeme with
      | beginArray => simp at opens
      | beginObject => simp at opens
      | _ => simp [Lexeme.turn]
    omega

end Steps

section Runs

variable {limit : Nat} {positioned : List (Nat × Lexeme)}
  {reader next : Reader}

theorem Reader.openAfter_foldlM_le (sound : reader.IsSound)
    (within : openAfter reader.lexemes ≤ limit)
    (runs : positioned.foldlM (Reader.step limit) reader = .ok next) :
    openAfter next.lexemes ≤ limit := by
  induction positioned generalizing reader with
  | nil =>
      cases runs
      exact within
  | cons first rest ih =>
      rw [List.foldlM_cons] at runs
      obtain ⟨middle, step, later⟩ := exists_of_bind_eq_ok runs
      exact ih (takes_step sound step).1
        (openAfter_step_le sound within step) later

theorem Reader.foldlM_of_foldlM (other : Nat)
    (runs : positioned.foldlM (Reader.step limit) reader = .ok next) :
    positioned.foldlM (Reader.step other) reader = .ok next ∨
      ∃ container, positioned.foldlM (Reader.step other) reader =
        .error (.tooDeep container) := by
  induction positioned generalizing reader with
  | nil => exact .inl runs
  | cons first rest ih =>
      rw [List.foldlM_cons] at runs ⊢
      obtain ⟨middle, step, later⟩ := exists_of_bind_eq_ok runs
      rcases step_of_step other step with same | ⟨container, gaveUp⟩
      · rw [same]
        exact ih later
      · rw [gaveUp]
        exact .inr ⟨container, rfl⟩

/-- A run that gives up has come to a container that it is not to open. -/
theorem Reader.foldlM_tooDeep {container : Container}
    (sound : reader.IsSound)
    (gaveUp : positioned.foldlM (Reader.step limit) reader =
      .error (.tooDeep container)) :
    ∃ before lexeme after, ∃ middle : Reader,
      positioned.map Prod.snd = before ++ lexeme :: after ∧
      middle.lexemes = reader.lexemes ++ before ∧
      middle.point.wantsValue = true ∧ limit ≤ middle.frames.length ∧
      (lexeme = .beginArray ∨ lexeme = .beginObject) := by
  obtain ⟨front, ⟨position, lexeme⟩, back, middle, rfl, runs, stops⟩ :=
    exists_of_foldlM_eq_error gaveUp
  obtain ⟨wants, full, opens⟩ := step_tooDeep stops
  have taken := (lexemes_of_foldlM sound runs).2
  refine ⟨front.map Prod.snd, lexeme, back.map Prod.snd, middle, ?_, taken,
    wants, full, opens⟩
  rw [List.map_append, List.map_cons]

end Runs

section Completion

/-- The document in which a value stands inside containers that hold nothing
behind it. -/
def enclosed (value : Json) : List Frame → Json
  | [] => value
  | .array items :: frames =>
      enclosed (.array (value :: items).reverse) frames
  | .object members name :: frames =>
      enclosed (.object ((name, value) :: members).reverse) frames

/-- Open containers with a value in them are the beginning of a document. -/
theorem prefix_enclosed (value : Json) (frames : List Frame) :
    framesLexemes frames ++ value.lexemes <+:
      (enclosed value frames).lexemes := by
  induction frames generalizing value with
  | nil => exact List.prefix_rfl
  | cons frame frames ih =>
      cases frame with
      | array items =>
          refine List.IsPrefix.trans ⟨[.endArray], ?_⟩ (ih _)
          rw [lexemes_array_reverse, framesLexemes, Frame.lexemes]
          simp only [List.append_assoc, List.cons_append]
      | object members name =>
          refine List.IsPrefix.trans ⟨[.endObject], ?_⟩ (ih _)
          rw [lexemes_object_reverse, framesLexemes, Frame.lexemes]
          simp only [memberLexemes, List.append_assoc, List.cons_append,
            List.nil_append]

end Completion

section Limits

/-- Lexemes begin like those of a document in which more than a number of
containers enclose each other. -/
def BeginDeep (limit : Nat) (lexemes : List Lexeme) : Prop :=
  ∃ before, before <+: lexemes ∧ (limit : Int) < openAfter before ∧
    ∃ document : Json, before <+: document.lexemes

theorem BeginDeep.mono {limit other : Nat} {lexemes : List Lexeme}
    (deep : BeginDeep limit lexemes) (atMost : other ≤ limit) :
    BeginDeep other lexemes := by
  obtain ⟨before, begins, opened, ofDocument⟩ := deep
  exact ⟨before, begins, by omega, ofDocument⟩

theorem openAfter_le_length (lexemes : List Lexeme) :
    openAfter lexemes ≤ lexemes.length := by
  induction lexemes with
  | nil => simp
  | cons lexeme lexemes ih =>
      have atMost : lexeme.turn ≤ 1 := by cases lexeme <;> simp [Lexeme.turn]
      rw [openAfter_cons, List.length_cons]
      omega

/-- More containers take more lexemes. -/
theorem BeginDeep.lt_length {limit : Nat} {lexemes : List Lexeme}
    (deep : BeginDeep limit lexemes) : limit < lexemes.length := by
  obtain ⟨before, begins, opened, -⟩ := deep
  have fewer := openAfter_le_length before
  have atMost := begins.length_le
  omega

/-- One of two parts that close what they open has the most containers open. -/
theorem exists_prefix_append {first second : List Lexeme} {most other : Nat}
    (closed : openAfter first = 0)
    (inFirst : ∃ before, before <+: first ∧ openAfter before = most)
    (inSecond : ∃ before, before <+: second ∧ openAfter before = other) :
    ∃ before, before <+: first ++ second ∧
      openAfter before = (max most other : Nat) := by
  rcases le_total other most with less | less
  · obtain ⟨before, begins, opened⟩ := inFirst
    refine ⟨before, begins.trans (List.prefix_append first second), ?_⟩
    rw [opened, max_eq_left less]
  · obtain ⟨before, begins, opened⟩ := inSecond
    refine ⟨first ++ before, (List.prefix_append_right_inj first).mpr begins,
      ?_⟩
    rw [openAfter_append, closed, opened, max_eq_right less, Int.zero_add]

mutual

/-- Somewhere in a document as many containers are open as enclose each
other. -/
theorem exists_prefix_depth : (document : Json) →
    ∃ before, before <+: document.lexemes ∧
      openAfter before = document.depth
  | null | bool _ | number _ | text _ => ⟨[], List.nil_prefix, rfl⟩
  | array [] | object [] => ⟨[_], ⟨[_], rfl⟩, rfl⟩
  | array (item :: items) => by
      obtain ⟨before, begins, opened⟩ := exists_prefix_append
        (openAfter_lexemes item) (exists_prefix_depth item)
        (exists_prefix_itemsDepth items)
      refine ⟨.beginArray :: before, ?_, ?_⟩
      · rw [lexemes]
        exact (List.prefix_cons_inj _).mpr begins
      · rw [openAfter_cons, opened, depth, itemsDepth, Lexeme.turn]
        omega
  | object ((name, member) :: members) => by
      obtain ⟨before, begins, opened⟩ := exists_prefix_append
        (openAfter_lexemes member) (exists_prefix_depth member)
        (exists_prefix_membersDepth members)
      refine ⟨.beginObject :: .text name :: .colon :: before, ?_, ?_⟩
      · rw [lexemes]
        simpa only [List.prefix_cons_inj] using begins
      · simp only [openAfter_cons, opened, depth, membersDepth, Lexeme.turn]
        omega

theorem exists_prefix_itemsDepth : (items : List Json) →
    ∃ before, before <+: laterItems items ∧
      openAfter before = itemsDepth items
  | [] => ⟨[], List.nil_prefix, rfl⟩
  | item :: items => by
      obtain ⟨before, begins, opened⟩ := exists_prefix_append
        (openAfter_lexemes item) (exists_prefix_depth item)
        (exists_prefix_itemsDepth items)
      refine ⟨.comma :: before, ?_, ?_⟩
      · rw [laterItems]
        exact (List.prefix_cons_inj _).mpr begins
      · simp only [openAfter_cons, opened, itemsDepth, Lexeme.turn,
          Int.zero_add]

theorem exists_prefix_membersDepth : (members : List (Text × Json)) →
    ∃ before, before <+: laterMembers members ∧
      openAfter before = membersDepth members
  | [] => ⟨[], List.nil_prefix, rfl⟩
  | (name, member) :: members => by
      obtain ⟨before, begins, opened⟩ := exists_prefix_append
        (openAfter_lexemes member) (exists_prefix_depth member)
        (exists_prefix_membersDepth members)
      refine ⟨.comma :: .text name :: .colon :: before, ?_, ?_⟩
      · rw [laterMembers]
        simpa only [List.prefix_cons_inj] using begins
      · simp only [openAfter_cons, opened, membersDepth, Lexeme.turn,
          Int.zero_add]

end

theorem beginDeep_lexemes {limit : Nat} {document : Json}
    (deep : limit < document.depth) : BeginDeep limit document.lexemes := by
  obtain ⟨before, begins, opened⟩ := exists_prefix_depth document
  exact ⟨before, begins, by omega, document, begins⟩

/-- A container behind the beginning of a document belongs to a document,
since everything that is open can be closed at once. -/
theorem Reader.exists_prefix_of_wantsValue {reader : Reader}
    (wants : reader.point.wantsValue = true) {lexeme : Lexeme}
    (opens : lexeme = .beginArray ∨ lexeme = .beginObject) :
    ∃ document : Json, reader.lexemes ++ [lexeme] <+: document.lexemes := by
  rw [lexemes_of_wantsValue wants]
  rcases opens with rfl | rfl
  · refine ⟨_, List.IsPrefix.trans ⟨[.endArray], ?_⟩
      (prefix_enclosed (.array []) reader.frames)⟩
    rw [List.append_assoc]
    rfl
  · refine ⟨_, List.IsPrefix.trans ⟨[.endObject], ?_⟩
      (prefix_enclosed (.object []) reader.frames)⟩
    rw [List.append_assoc]
    rfl

theorem isSound_start : Reader.start.IsSound := trivial

theorem beginDeep_of_foldlM_start {limit : Nat}
    {positioned : List (Nat × Lexeme)} {container : Container}
    (gaveUp : positioned.foldlM (Reader.step limit) Reader.start =
      .error (.tooDeep container)) :
    BeginDeep limit (positioned.map Prod.snd) := by
  obtain ⟨before, lexeme, after, middle, split, middleEq, wants, full,
    opens⟩ := Reader.foldlM_tooDeep isSound_start gaveUp
  obtain rfl : middle.lexemes = before := middleEq
  have opened := Reader.openAfter_of_wantsValue wants
  have single : lexeme.turn = 1 := by rcases opens with rfl | rfl <;> rfl
  refine ⟨middle.lexemes ++ [lexeme], ⟨after, ?_⟩, ?_,
    Reader.exists_prefix_of_wantsValue wants opens⟩
  · rw [split, List.append_assoc, List.singleton_append]
  · rw [openAfter_append, openAfter_cons, openAfter_nil, opened, single]
    omega

/-- With a limit that suits the document a reader comes behind the beginning
of a document. -/
theorem Reader.foldlM_of_prefix {document : Json}
    {front : List (Nat × Lexeme)}
    (begins : front.map Prod.snd <+: document.lexemes) :
    ∃ next, front.foldlM (Reader.step document.depth) Reader.start =
      .ok next := by
  obtain ⟨more, ofDocument⟩ := begins
  have suits := runs_lexemes Point.wantsValue_value [] document
    (by simp : [].length + document.depth ≤ document.depth)
  have whole := suits (front ++ more.map (Prod.mk 0)) (by
    rw [List.map_append, List.map_map, ← ofDocument]
    exact congrArg _ (List.map_id more))
  rw [List.foldlM_append] at whole
  obtain ⟨middle, runs, -⟩ := exists_of_bind_eq_ok whole
  exact ⟨middle, runs⟩

theorem exists_tooDeep_of_beginDeep {limit : Nat}
    {positioned : List (Nat × Lexeme)}
    (deep : BeginDeep limit (positioned.map Prod.snd)) :
    ∃ container, positioned.foldlM (Reader.step limit) Reader.start =
      .error (.tooDeep container) := by
  obtain ⟨before, ⟨rest, begins⟩, opened, document, ofDocument⟩ := deep
  obtain ⟨front, back, rfl, frontEq, -⟩ :=
    List.map_eq_append_iff.mp begins.symm
  subst frontEq
  obtain ⟨middle, runs⟩ := Reader.foldlM_of_prefix ofDocument
  rw [List.foldlM_append]
  rcases Reader.foldlM_of_foldlM limit runs with same | ⟨container, gaveUp⟩
  · have within := Reader.openAfter_foldlM_le isSound_start
      (by simp [Reader.lexemes, Reader.start, framesLexemes,
        Point.lexemes]) same
    have taken := (Reader.lexemes_of_foldlM isSound_start same).2
    have nothing : Reader.start.lexemes = [] := rfl
    rw [taken, nothing, List.nil_append] at within
    omega
  · exact ⟨container, by rw [gaveUp]; rfl⟩

theorem foldlM_start_tooDeep_iff {limit : Nat}
    {positioned : List (Nat × Lexeme)} :
    (∃ container, positioned.foldlM (Reader.step limit) Reader.start =
      .error (.tooDeep container)) ↔
        BeginDeep limit (positioned.map Prod.snd) :=
  ⟨fun ⟨_, gaveUp⟩ => beginDeep_of_foldlM_start gaveUp,
    exists_tooDeep_of_beginDeep⟩

/-- Reading gives up just if the lexemes of the text begin too deep. -/
theorem read_tooDeep_iff {limit : Nat} {chars : List Char} :
    (∃ container, read limit chars = .error (.tooDeep container)) ↔
      BeginDeep limit ((lex chars).map Prod.snd) := by
  rw [← foldlM_start_tooDeep_iff, read]
  split
  · next mark =>
      obtain ⟨rest, rfl⟩ := List.head?_eq_some_iff.mp mark
      obtain ⟨later, cut⟩ := exists_lex_byteOrderMark rest
      constructor
      · rintro ⟨container, gaveUp⟩
        cases gaveUp
      · rintro ⟨container, gaveUp⟩
        rw [cut] at gaveUp
        cases gaveUp
  · constructor
    · rintro ⟨container, gaveUp⟩
      cases runs : (lex chars).foldlM (Reader.step limit) Reader.start with
      | error fault =>
          rw [runs] at gaveUp
          cases gaveUp
          exact ⟨container, rfl⟩
      | ok reader =>
          rw [runs] at gaveUp
          have finished : reader.finish chars.length =
            .error (.tooDeep container) := gaveUp
          rw [Reader.finish] at finished
          split at finished <;> cases finished
    · rintro ⟨container, gaveUp⟩
      exact ⟨container, by rw [gaveUp]; rfl⟩

end Limits

section Brackets

theorem turn_wordOrNumber (chars : List Char) :
    (wordOrNumber chars).1.turn = 0 := by
  have ofWords : ∀ word ∈ words, word.2.turn = 0 := by decide
  unfold wordOrNumber
  split
  · next word found => exact ofWords word (List.mem_of_find?_eq_some found)
  · split <;> rfl

theorem bracket_of_firstLexeme {position length : Nat} {char : Char}
    {rest : List Char} {lexeme : Lexeme}
    (first : firstLexeme position char rest = (some lexeme, length))
    (opens : lexeme.turn = 1) : char = '[' ∨ char = '\x7b' := by
  unfold firstLexeme at first
  split at first
  · cases first
  · split at first
    case h_1 => exact .inl rfl
    case h_3 => exact .inr rfl
    case h_7 => split at first <;> (cases first; cases opens)
    case h_8 =>
      have turned := turn_wordOrNumber (char :: rest)
      have isFirst : (wordOrNumber (char :: rest)).1 = lexeme :=
        Option.some.inj (Prod.mk.inj first).1
      rw [isFirst, opens] at turned
      cases turned
    all_goals
      cases first
      cases opens

theorem bracket_mem_of_lexFrom {position covered : Nat} {chars : List Char}
    {lexeme : Lexeme}
    (isLexeme : lexeme ∈ (lexFrom position covered chars).map Prod.snd)
    (opens : lexeme.turn = 1) : '[' ∈ chars ∨ '\x7b' ∈ chars := by
  induction chars generalizing position covered with
  | nil => simp [lexFrom] at isLexeme
  | cons char rest ih =>
      have later : ∀ {position covered : Nat},
          lexeme ∈ (lexFrom position covered rest).map Prod.snd →
            '[' ∈ char :: rest ∨ '\x7b' ∈ char :: rest := fun isLater =>
        (ih isLater).imp (List.mem_cons_of_mem _) (List.mem_cons_of_mem _)
      cases covered with
      | succ covered =>
          rw [lexFrom] at isLexeme
          exact later isLexeme
      | zero =>
          rw [lexFrom] at isLexeme
          rcases found : firstLexeme position char rest with
            ⟨_ | first, length⟩
          · rw [found] at isLexeme
            exact later isLexeme
          · rw [found, List.map_cons, List.mem_cons] at isLexeme
            rcases isLexeme with rfl | isLater
            · rcases bracket_of_firstLexeme found opens with rfl | rfl
              · exact .inl List.mem_cons_self
              · exact .inr List.mem_cons_self
            · exact later isLater

theorem exists_turn_of_openAfter_pos {lexemes : List Lexeme}
    (opened : 0 < openAfter lexemes) :
    ∃ lexeme ∈ lexemes, lexeme.turn = 1 := by
  induction lexemes with
  | nil => simp at opened
  | cons first rest ih =>
      by_cases opens : first.turn = 1
      · exact ⟨first, List.mem_cons_self, opens⟩
      · have atMost : first.turn ≤ 0 := by
          cases first <;> simp_all [Lexeme.turn]
        rw [openAfter_cons] at opened
        obtain ⟨lexeme, isLater, opensLater⟩ := ih (by omega)
        exact ⟨lexeme, List.mem_cons_of_mem _ isLater, opensLater⟩

/-- A text that begins too deep holds a bracket or a brace. -/
theorem BeginDeep.bracket_mem {limit : Nat} {chars : List Char}
    (deep : BeginDeep limit ((lex chars).map Prod.snd)) :
    '[' ∈ chars ∨ '\x7b' ∈ chars := by
  obtain ⟨before, begins, opened, -⟩ := deep
  obtain ⟨lexeme, isBefore, opens⟩ :=
    exists_turn_of_openAfter_pos (show 0 < openAfter before by omega)
  exact bracket_mem_of_lexFrom (begins.subset isBefore) opens

end Brackets

end VestingContract.Json
