import VestingContract.Proofs.Json.Reading

/-!
# Documents that are read

A document that is read consists of the lexemes of its text, in their order,
and of nothing else.  At every point of the text the open containers and the
values in them account for all lexemes before this point, so reading neither
leaves out nor adds a member, even if two members have the same name.
-/

namespace VestingContract.Json

section Open

/-- The lexemes of the items of an open array with a comma behind each; the
last item comes first. -/
def itemsSoFar (items : List Json) : List Lexeme :=
  items.reverse.flatMap fun item => item.lexemes ++ [.comma]

/-- The lexemes of a member of an object. -/
def memberLexemes (member : Text × Json) : List Lexeme :=
  .text member.1 :: .colon :: member.2.lexemes

/-- The lexemes of the members of an open object with a comma behind each; the
last member comes first. -/
def membersSoFar (members : List (Text × Json)) : List Lexeme :=
  members.reverse.flatMap fun member => memberLexemes member ++ [.comma]

theorem itemsSoFar_cons (item : Json) (items : List Json) :
    itemsSoFar (item :: items) =
      itemsSoFar items ++ (item.lexemes ++ [.comma]) := by
  rw [itemsSoFar, List.reverse_cons, List.flatMap_append,
    List.flatMap_singleton]
  rfl

theorem membersSoFar_cons (member : Text × Json)
    (members : List (Text × Json)) :
    membersSoFar (member :: members) =
      membersSoFar members ++ (memberLexemes member ++ [.comma]) := by
  rw [membersSoFar, List.reverse_cons, List.flatMap_append,
    List.flatMap_singleton]
  rfl

/-- Items with commas behind them and items with commas in front of them meet
in the middle of an array. -/
theorem lexemes_array_middle (done : List Json) (item : Json)
    (items : List Json) :
    (array (done.reverse ++ item :: items)).lexemes =
      .beginArray ::
        (itemsSoFar done ++ (item.lexemes ++ laterItems items)) := by
  induction done generalizing item items with
  | nil => rfl
  | cons last done ih =>
      rw [List.reverse_cons, List.append_assoc, List.singleton_append, ih,
        itemsSoFar_cons]
      simp only [laterItems, List.append_assoc, List.singleton_append]

theorem lexemes_object_middle (done : List (Text × Json))
    (member : Text × Json) (members : List (Text × Json)) :
    (object (done.reverse ++ member :: members)).lexemes =
      .beginObject ::
        (membersSoFar done ++ (memberLexemes member ++
          laterMembers members)) := by
  induction done generalizing member members with
  | nil => rfl
  | cons last done ih =>
      rw [List.reverse_cons, List.append_assoc, List.singleton_append, ih,
        membersSoFar_cons]
      simp only [laterMembers, memberLexemes, List.append_assoc,
        List.cons_append, List.nil_append]

theorem lexemes_array_reverse (item : Json) (items : List Json) :
    (array (item :: items).reverse).lexemes =
      .beginArray :: (itemsSoFar items ++ item.lexemes) ++ [.endArray] := by
  rw [List.reverse_cons, lexemes_array_middle, laterItems,
    ← List.append_assoc, List.cons_append]

theorem lexemes_object_reverse (member : Text × Json)
    (members : List (Text × Json)) :
    (object (member :: members).reverse).lexemes =
      .beginObject :: (membersSoFar members ++ memberLexemes member) ++
        [.endObject] := by
  rw [List.reverse_cons, lexemes_object_middle, laterMembers,
    ← List.append_assoc, List.cons_append]

/-- The lexemes of an open container in front of the value that is being
read. -/
def Frame.lexemes : Frame → List Lexeme
  | array items => .beginArray :: itemsSoFar items
  | object members name =>
      .beginObject :: (membersSoFar members ++ [.text name, .colon])

/-- The lexemes of all open containers, the innermost one first. -/
def framesLexemes : List Frame → List Lexeme
  | [] => []
  | frame :: frames => framesLexemes frames ++ frame.lexemes

/-- The lexemes between the open containers and a point. -/
def Point.lexemes : Point → List Lexeme
  | value | valueOrEnd => []
  | nameOrEnd => [.beginObject]
  | name members => .beginObject :: membersSoFar members
  | colon members label =>
      .beginObject :: (membersSoFar members ++ [.text label])
  | afterItem [] => [.beginArray]
  | afterItem (item :: items) =>
      .beginArray :: (itemsSoFar items ++ item.lexemes)
  | afterMember [] => [.beginObject]
  | afterMember (member :: members) =>
      .beginObject :: (membersSoFar members ++ memberLexemes member)
  | finished document => document.lexemes

/-- All lexemes that a reader has taken. -/
def Reader.lexemes (reader : Reader) : List Lexeme :=
  framesLexemes reader.frames ++ reader.point.lexemes

/-- An array can be closed right after it was opened, and behind an item; an
object behind a member.  Nothing is open around a document. -/
def Reader.IsSound (reader : Reader) : Prop :=
  match reader.point with
  | .valueOrEnd => reader.frames.head? = some (.array [])
  | .afterItem items => items ≠ []
  | .afterMember members => members ≠ []
  | .finished _ => reader.frames = []
  | _ => True

end Open

section Steps

theorem Reader.isSound_complete (document : Json) (frames : List Frame) :
    (complete document frames).IsSound := by
  cases frames with
  | nil => rfl
  | cons frame frames =>
      cases frame with
      | array items => exact List.cons_ne_nil _ _
      | object members name => exact List.cons_ne_nil _ _

theorem Reader.lexemes_complete (document : Json) (frames : List Frame) :
    (complete document frames).lexemes =
      framesLexemes frames ++ document.lexemes := by
  cases frames with
  | nil => rfl
  | cons frame frames =>
      cases frame with
      | array items =>
          simp only [complete, lexemes, framesLexemes, Point.lexemes,
            Frame.lexemes, List.cons_append, List.append_assoc]
      | object members name =>
          simp only [complete, lexemes, framesLexemes, Point.lexemes,
            Frame.lexemes, memberLexemes, List.cons_append,
            List.append_assoc, List.nil_append]

/-- A reader has taken one more lexeme. -/
def Reader.Takes (lexeme : Lexeme) (reader next : Reader) : Prop :=
  next.IsSound ∧ next.lexemes = reader.lexemes ++ [lexeme]

variable {limit position : Nat} {lexeme : Lexeme} {frames : List Frame}
  {next : Reader}

theorem Reader.takes_complete {reader : Reader} {document : Json}
    (ends : framesLexemes frames ++ document.lexemes =
      reader.lexemes ++ [lexeme]) :
    Takes lexeme reader (complete document frames) :=
  ⟨isSound_complete document frames,
    (lexemes_complete document frames).trans ends⟩

theorem Reader.takes_readValue {point : Point}
    (nothing : point.lexemes = [])
    (step : readValue limit frames position lexeme = .ok next) :
    Takes lexeme ⟨point, frames⟩ next := by
  have whole : ∀ {document : Json}, document.lexemes = [lexeme] →
      Takes lexeme ⟨point, frames⟩ (complete document frames) := by
    intro document single
    apply takes_complete
    rw [lexemes, nothing, single, List.append_nil]
  cases lexeme with
  | null => cases step; exact whole rfl
  | bool truth => cases step; exact whole rfl
  | number lexeme => cases step; exact whole rfl
  | text content => cases step; exact whole rfl
  | beginArray =>
      rw [readValue] at step
      split at step
      · cases step
      · cases step
        have before : lexemes ⟨point, frames⟩ = framesLexemes frames := by
          rw [lexemes, nothing, List.append_nil]
        refine ⟨rfl, ?_⟩
        rw [before, lexemes, Point.lexemes, List.append_nil]
        rfl
  | beginObject =>
      rw [readValue] at step
      split at step
      · cases step
      · cases step
        refine ⟨trivial, ?_⟩
        rw [lexemes, Point.lexemes, lexemes, nothing, List.append_nil]
  | _ => cases step

theorem Reader.takes_readName {point : Point} {members : List (Text × Json)}
    (opened : point.lexemes = .beginObject :: membersSoFar members)
    (step : readName members frames position lexeme = .ok next) :
    Takes lexeme ⟨point, frames⟩ next := by
  cases lexeme with
  | text name =>
      cases step
      refine ⟨trivial, ?_⟩
      rw [lexemes, Point.lexemes, lexemes, opened, List.append_assoc,
        List.cons_append]
  | _ => cases step

/-- A step of a reader adds the lexeme that it takes. -/
theorem Reader.takes_step {reader : Reader} (sound : reader.IsSound)
    (step : Reader.step limit reader (position, lexeme) = .ok next) :
    Takes lexeme reader next := by
  obtain ⟨point, frames⟩ := reader
  simp only [Reader.step] at step
  split at step
  · cases frames with
    | nil => cases sound
    | cons frame frames =>
        cases sound
        cases step
        apply takes_complete
        simp only [lexemes, framesLexemes, Frame.lexemes, Point.lexemes,
          List.append_nil, List.append_assoc]
        rfl
  · exact takes_readValue rfl step
  · exact takes_readValue rfl step
  · cases step
    exact takes_complete (by simp [lexemes, Point.lexemes, Json.lexemes])
  · exact takes_readName (show Point.nameOrEnd.lexemes =
      .beginObject :: membersSoFar [] from rfl) step
  · exact takes_readName rfl step
  · cases step
    refine ⟨trivial, ?_⟩
    simp only [lexemes, framesLexemes, Frame.lexemes, Point.lexemes,
      List.append_assoc, List.cons_append, List.nil_append, List.append_nil]
  · cases step
  · next items =>
      cases step
      -- A comma is read behind an item, so the array is not empty.
      cases items with
      | nil => exact absurd rfl sound
      | cons item items =>
          refine ⟨trivial, ?_⟩
          simp only [lexemes, framesLexemes, Frame.lexemes, Point.lexemes,
            itemsSoFar_cons, List.append_assoc, List.cons_append,
            List.append_nil]
  · next items =>
      cases step
      cases items with
      | nil => exact absurd rfl sound
      | cons item items =>
          apply takes_complete
          rw [lexemes_array_reverse, lexemes, Point.lexemes,
            List.append_assoc]
  · next members =>
      cases step
      cases members with
      | nil => exact absurd rfl sound
      | cons member members =>
          refine ⟨trivial, ?_⟩
          simp only [lexemes, Point.lexemes, membersSoFar_cons,
            List.append_assoc, List.cons_append]
  · next members =>
      cases step
      cases members with
      | nil => exact absurd rfl sound
      | cons member members =>
          apply takes_complete
          rw [lexemes_object_reverse, lexemes, Point.lexemes,
            List.append_assoc]
  · cases step
  · cases step
  · cases step

end Steps

/-- A reader that has come to a point has taken all lexemes in front of it. -/
theorem Reader.lexemes_of_foldlM {limit : Nat}
    {positioned : List (Nat × Lexeme)} {reader next : Reader}
    (sound : reader.IsSound)
    (taken : positioned.foldlM (Reader.step limit) reader = .ok next) :
    next.IsSound ∧
      next.lexemes = reader.lexemes ++ positioned.map Prod.snd := by
  induction positioned generalizing reader with
  | nil =>
      cases taken
      rw [List.map_nil, List.append_nil]
      exact ⟨sound, rfl⟩
  | cons first rest ih =>
      rw [List.foldlM_cons] at taken
      cases step : Reader.step limit reader first with
      | error fault =>
          rw [step] at taken
          cases taken
      | ok middle =>
          rw [step] at taken
          obtain ⟨soundMiddle, middleEq⟩ := takes_step sound step
          obtain ⟨soundNext, nextEq⟩ := ih soundMiddle taken
          refine ⟨soundNext, ?_⟩
          rw [nextEq, middleEq, List.map_cons, List.append_assoc,
            List.singleton_append]

/-- The lexemes of a text that is read are those of its document. -/
theorem lexemes_of_read {limit : Nat} {chars : List Char} {document : Json}
    (isRead : read limit chars = .ok document) :
    document.lexemes = (lex chars).map Prod.snd := by
  rw [read] at isRead
  split at isRead
  · cases isRead
  · cases taken : (lex chars).foldlM (Reader.step limit) Reader.start with
    | error fault =>
        rw [taken] at isRead
        cases isRead
    | ok reader =>
        rw [taken] at isRead
        have takes := Reader.lexemes_of_foldlM (show Reader.start.IsSound from
          trivial) taken
        have finished : reader.finish chars.length = .ok document := isRead
        obtain ⟨point, frames⟩ := reader
        rw [Reader.finish] at finished
        split at finished
        · next isFinished =>
            cases finished
            simp only at isFinished
            subst isFinished
            obtain ⟨sound, lexemesEq⟩ := takes
            rw [Reader.lexemes, show frames = [] from sound] at lexemesEq
            exact lexemesEq
        all_goals cases finished

theorem eq_of_lexemes_eq {first second : Json}
    (same : first.lexemes = second.lexemes) : first = second := by
  -- One limit suits both, so the same run of the reader ends in both.
  have takesFirst : Runs (max first.depth second.depth) Reader.start
      first.lexemes (Reader.complete first []) :=
    runs_lexemes rfl [] first (by simp only [List.length_nil]; omega)
  have takesSecond : Runs (max first.depth second.depth) Reader.start
      second.lexemes (Reader.complete second []) :=
    runs_lexemes rfl [] second (by simp only [List.length_nil]; omega)
  have positioned : (second.lexemes.map (Prod.mk 0)).map Prod.snd =
      second.lexemes := by
    rw [List.map_map]
    exact List.map_id _
  have ends := takesFirst _ (positioned.trans same.symm)
  rw [takesSecond _ positioned] at ends
  cases ends
  rfl

end VestingContract.Json
