import VestingContract.Proofs.Json.Escaping
import VestingContract.Proofs.Json.Flattening

/-!
# Rows between brackets

Items and members are written as rows with a comma and a space between them
and with brackets around them.  If the rows spell lexemes in printable ASCII,
so does what is written.
-/

namespace VestingContract

namespace Json

section Rows

theorem SpellsLexemes.behindSpace {lexemes : List Lexeme}
    {space chars : List Char} (blank : IsSpace space)
    (spelled : SpellsLexemes lexemes chars) :
    SpellsLexemes lexemes (space ++ chars) := by
  induction space with
  | nil => exact spelled
  | cons char space ih =>
      obtain ⟨isBlank, others⟩ := List.forall_mem_cons.mp blank
      exact (ih others).behind char isBlank

theorem SpellsLexemes.append {lexemes others : List Lexeme}
    {chars rest : List Char} (first : SpellsLexemes lexemes chars)
    (later : SpellsLexemes others rest) :
    SpellsLexemes (lexemes ++ others) (chars ++ rest) := by
  induction first with
  | nil blank => exact later.behindSpace blank
  | cons blank head tail ih =>
      simp only [List.cons_append, List.append_assoc]
      exact .cons blank head ih

theorem SpellsLexeme.single {lexeme : Lexeme} {spelling : List Char}
    (spelled : SpellsLexeme lexeme spelling) :
    SpellsLexemes [lexeme] spelling := by
  have none : IsSpace [] := List.forall_mem_nil _
  have alone := SpellsLexemes.next spelled (.nil none)
  rwa [List.append_nil] at alone

/-- Characters of printable ASCII that spell lexemes. -/
structure Spells (lexemes : List Lexeme) (chars : List Char) : Prop where
  spelled : SpellsLexemes lexemes chars
  printable : IsPrintable chars

theorem Spells.append {lexemes others : List Lexeme} {chars rest : List Char}
    (first : Spells lexemes chars) (later : Spells others rest) :
    Spells (lexemes ++ others) (chars ++ rest) :=
  ⟨first.spelled.append later.spelled,
    isPrintable_append_iff.mpr ⟨first.printable, later.printable⟩⟩

/-- A lexeme with a space behind it. -/
theorem SpellsLexeme.withSpace {lexeme : Lexeme} {spelling : List Char}
    (spelled : SpellsLexeme lexeme spelling) :
    SpellsLexemes [lexeme] (spelling ++ [' ']) := by
  have space : SpellsLexemes [] [' '] := .nil (by simp [IsSpace, isSpace])
  exact .next spelled space

/-- A comma with a space behind it, as it stands between rows. -/
def commaSpace : List Char := [',', ' ']

theorem spells_commaSpace : Spells [.comma] commaSpace :=
  ⟨SpellsLexeme.comma.withSpace, by decide⟩

theorem join_map_ofChars (rows : List (List Char)) :
    Text.join ", " (rows.map Text.ofChars) =
      Text.ofChars (List.intercalate commaSpace rows) := by
  induction rows with
  | nil => rfl
  | cons row rows ih =>
      cases rows with
      | nil => simp [Text.join]
      | cons next rows =>
          rw [List.map_cons, List.map_cons, Text.join,
            List.intercalate_cons_cons, ← List.map_cons, ← Text.join, ih,
            List.intercalate_cons_cons, Text.ofChars_append,
            Text.ofChars_append]
          rfl

/-- Rows joined by commas spell their lexemes with commas between them. -/
theorem spells_intercalate {rows : List (List Lexeme × List Char)}
    (spells : ∀ row ∈ rows, Spells row.1 row.2) :
    Spells (List.intercalate [.comma] (rows.map Prod.fst))
      (List.intercalate commaSpace (rows.map Prod.snd)) := by
  -- A comma stands between two rows only, so the rest is split once more.
  induction rows with
  | nil => exact ⟨.nil (List.forall_mem_nil _), List.forall_mem_nil _⟩
  | cons row rows ih =>
      obtain ⟨first, others⟩ := List.forall_mem_cons.mp spells
      cases rows with
      | nil => simpa using first
      | cons next rows =>
          simp only [List.map_cons, List.intercalate_cons_cons] at ih ⊢
          exact (first.append spells_commaSpace).append (ih others)

/-- Rows between brackets. -/
theorem exists_spells_bracketed {rows : List (List Lexeme × List Char)}
    (spells : ∀ row ∈ rows, Spells row.1 row.2) {first last : Lexeme}
    {opening closing : Char} (opens : Spells [first] [opening])
    (closes : Spells [last] [closing]) :
    ∃ chars, Value.bracketed (Text.ofChars [opening]) (Text.ofChars [closing])
        (rows.map fun row => Text.ofChars row.2) = Text.ofChars chars ∧
      Spells (first :: (List.intercalate [.comma] (rows.map Prod.fst) ++
        [last])) chars := by
  refine ⟨[opening] ++
    (List.intercalate commaSpace (rows.map Prod.snd) ++ [closing]), ?_,
    opens.append ((spells_intercalate spells).append closes)⟩
  have joined := join_map_ofChars (rows.map Prod.snd)
  rw [List.map_map] at joined
  rw [Value.bracketed, Text.ofChars_append, Text.ofChars_append,
    ← List.append_assoc, ← joined]
  rfl

theorem lexemes_append_laterItems (item : Json) (items : List Json) :
    item.lexemes ++ laterItems items =
      List.intercalate [.comma] ((item :: items).map lexemes) ++
        [.endArray] := by
  induction items generalizing item with
  | nil => simp [laterItems]
  | cons next items ih =>
      simp [laterItems, ih, List.intercalate_cons_cons]

theorem lexemes_array (items : List Json) :
    (array items).lexemes = .beginArray ::
      (List.intercalate [.comma] (items.map lexemes) ++ [.endArray]) := by
  cases items with
  | nil => rfl
  | cons item items => rw [lexemes, lexemes_append_laterItems]

theorem memberLexemes_append_laterMembers (member : Text × Json)
    (members : List (Text × Json)) :
    memberLexemes member ++ laterMembers members =
      List.intercalate [.comma] ((member :: members).map memberLexemes) ++
        [.endObject] := by
  induction members generalizing member with
  | nil => simp [laterMembers]
  | cons next members ih =>
      have following : laterMembers (next :: members) =
          .comma :: (memberLexemes next ++ laterMembers members) := by
        rw [laterMembers, memberLexemes]
        rfl
      simp [following, ih, List.intercalate_cons_cons]

theorem lexemes_object (members : List (Text × Json)) :
    (object members).lexemes = .beginObject ::
      (List.intercalate [.comma] (members.map memberLexemes) ++
        [.endObject]) := by
  cases members with
  | nil => rfl
  | cons member members =>
      rw [← memberLexemes_append_laterMembers, lexemes, memberLexemes]
      rfl

end Rows

end Json

end VestingContract
