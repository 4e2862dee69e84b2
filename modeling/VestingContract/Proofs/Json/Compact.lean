import VestingContract.Proofs.Json.Spelling

/-!
# Compact spellings

A document whose texts hold no quote marks, backslashes and control characters
is spelled by the characters of its lexemes, with no white space between them.
-/

namespace VestingContract

namespace Json

/-- A code point that stands for itself in a text. -/
def isPlain : CodePoint → Bool
  | .scalar char => 0x20 ≤ char.toNat && char != '"' && char != '\\'
  | .surrogate _ => false

/-- The characters of a text without the lone surrogates in it. -/
def scalars (content : Text) : List Char :=
  content.filterMap fun
    | .scalar char => some char
    | .surrogate _ => none

/-- The characters of a lexeme; those of a text stand for themselves. -/
def Lexeme.characters : Lexeme → List Char
  | .beginArray => ['[']
  | .endArray => [']']
  | .beginObject => ['\x7b']
  | .endObject => ['\x7d']
  | .comma => [',']
  | .colon => [':']
  | .null => ['n', 'u', 'l', 'l']
  | .bool true => ['t', 'r', 'u', 'e']
  | .bool false => ['f', 'a', 'l', 's', 'e']
  | .number lexeme => lexeme
  | .text content => '"' :: (scalars content ++ ['"'])
  | .nonFinite _ | .brokenText _ | .stray => []

/-- A lexeme of a document that its characters spell. -/
def Lexeme.IsPlain : Lexeme → Prop
  | .number lexeme => IsNumber lexeme
  | .text content => content.all isPlain = true
  | .nonFinite _ | .brokenText _ | .stray => False
  | _ => True

/-- The characters of the lexemes of a document. -/
def compact (document : Json) : List Char :=
  document.lexemes.flatMap Lexeme.characters

theorem ofChars_scalars {content : Text}
    (plain : content.all isPlain = true) :
    Text.ofChars (scalars content) = content := by
  induction content with
  | nil => rfl
  | cons codePoint content ih =>
      rw [List.all_cons, Bool.and_eq_true] at plain
      cases codePoint with
      | scalar char =>
          simp only [scalars, Text.ofChars, List.filterMap_cons,
            List.map_cons] at ih ⊢
          rw [ih plain.2]
      | surrogate offset => cases plain.1

theorem plain_of_mem_scalars {content : Text}
    (plain : content.all isPlain = true) :
    ∀ char ∈ scalars content,
      0x20 ≤ char.toNat ∧ char ≠ '"' ∧ char ≠ '\\' := by
  intro char isMember
  obtain ⟨codePoint, isCodePoint, isScalar⟩ := List.mem_filterMap.mp isMember
  have stands := List.all_eq_true.mp plain codePoint isCodePoint
  cases codePoint with
  | scalar other =>
      cases isScalar
      simpa [isPlain, and_assoc] using stands
  | surrogate offset => cases isScalar

theorem Lexeme.IsPlain.spells {lexeme : Lexeme} (plain : lexeme.IsPlain) :
    SpellsLexeme lexeme lexeme.characters := by
  cases lexeme with
  | text content =>
      have spelled := SpellsLexeme.plain (scalars content)
        (plain_of_mem_scalars plain)
      rwa [ofChars_scalars plain] at spelled
  | number lexeme => exact .number plain
  | bool truth =>
      cases truth with
      | false => exact .false
      | true => exact .true
  | beginArray => exact .beginArray
  | endArray => exact .endArray
  | beginObject => exact .beginObject
  | endObject => exact .endObject
  | comma => exact .comma
  | colon => exact .colon
  | null => exact .null
  | nonFinite name => exact plain.elim
  | brokenText fault => exact plain.elim
  | stray => exact plain.elim

theorem spellsLexemes_characters {lexemes : List Lexeme}
    (plain : ∀ lexeme ∈ lexemes, lexeme.IsPlain) :
    SpellsLexemes lexemes (lexemes.flatMap Lexeme.characters) := by
  induction lexemes with
  | nil => exact .nil (by simp [IsSpace])
  | cons lexeme lexemes ih =>
      obtain ⟨first, later⟩ := List.forall_mem_cons.mp plain
      rw [List.flatMap_cons]
      exact .next first.spells (ih later)

/-- A plain document is spelled compactly. -/
theorem isSpelledBy_compact {document : Json}
    (plain : ∀ lexeme ∈ document.lexemes, lexeme.IsPlain) :
    document.IsSpelledBy document.compact :=
  spellsLexemes_characters plain

end Json

end VestingContract
