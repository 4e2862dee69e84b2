import VestingContract.Json.Reader

/-!
# Spellings of documents

The notation of documents, told without a reader.  A document is a sequence
of lexemes, and it is spelled by the characters of these lexemes with any
white space around them.  A number is spelled by its own text only, while the
characters of a text may be escaped in any way.  Texts with a lone surrogate
have no spelling.
-/

namespace VestingContract

namespace Json

/-- The hexadecimal digits with their values. -/
def hexDigits : List (Char × Nat) :=
  [('0', 0), ('1', 1), ('2', 2), ('3', 3), ('4', 4), ('5', 5), ('6', 6),
    ('7', 7), ('8', 8), ('9', 9), ('a', 10), ('b', 11), ('c', 12), ('d', 13),
    ('e', 14), ('f', 15), ('A', 10), ('B', 11), ('C', 12), ('D', 13),
    ('E', 14), ('F', 15)]

/-- The letters behind a backslash with the characters that they escape. -/
def shortEscapes : List (Char × Char) :=
  [('"', '"'), ('\\', '\\'), ('/', '/'), ('b', '\x08'), ('f', '\x0c'),
    ('n', '\n'), ('r', '\r'), ('t', '\t')]

/-- Four hexadecimal digits spell sixteen bits behind a backslash and a small
letter u. -/
inductive SpellsUnit : Nat → List Char → Prop where
  | digits {first second third fourth : Char × Nat}
      (firstDigit : first ∈ hexDigits) (secondDigit : second ∈ hexDigits)
      (thirdDigit : third ∈ hexDigits) (fourthDigit : fourth ∈ hexDigits) :
      SpellsUnit
        (((first.2 * 16 + second.2) * 16 + third.2) * 16 + fourth.2)
        ['\\', 'u', first.1, second.1, third.1, fourth.1]

/-- A character of a text stands for itself, or is escaped by a letter, by its
number, or by the two halves of a surrogate pair. -/
inductive SpellsChar (char : Char) : List Char → Prop where
  | plain (noControl : 0x20 ≤ char.toNat) (noQuote : char ≠ '"')
      (noBackslash : char ≠ '\\') : SpellsChar char [char]
  | short {letter : Char} (escape : (letter, char) ∈ shortEscapes) :
      SpellsChar char ['\\', letter]
  | unit {spelling : List Char}
      (spelled : SpellsUnit char.toNat spelling) : SpellsChar char spelling
  | pair {leading trailing : List Char} (large : 0x10000 ≤ char.toNat)
      (high : SpellsUnit (0xD800 + (char.toNat - 0x10000) / 0x400) leading)
      (low : SpellsUnit (0xDC00 + (char.toNat - 0x10000) % 0x400) trailing) :
      SpellsChar char (leading ++ trailing)

/-- The characters of a text are spelled one after the other. -/
inductive SpellsChars : List Char → List Char → Prop where
  | nil : SpellsChars [] []
  | cons {char : Char} {chars spelling rest : List Char}
      (head : SpellsChar char spelling) (tail : SpellsChars chars rest) :
      SpellsChars (char :: chars) (spelling ++ rest)

/-- At least one decimal digit. -/
def IsDigits (chars : List Char) : Prop :=
  chars ≠ [] ∧ ∀ char ∈ chars, isDigit char = true

theorem forall_mem_of_all {property : Char → Prop} [DecidablePred property]
    {chars : List Char} (all : chars.all (fun char => property char) = true) :
    ∀ char ∈ chars, property char := by
  simpa using all

/-- A single zero, or digits of which the first one is no zero. -/
def IsIntegral (chars : List Char) : Prop :=
  chars = ['0'] ∨ IsDigits chars ∧ chars.head? ≠ some '0'

/-- A point with digits behind it, or nothing. -/
def IsFraction (chars : List Char) : Prop :=
  chars = [] ∨ ∃ digits, IsDigits digits ∧ chars = '.' :: digits

/-- A letter e of any case, a sign on demand and digits, or nothing. -/
def IsExponent (chars : List Char) : Prop :=
  chars = [] ∨ ∃ letter sign digits, (letter = 'e' ∨ letter = 'E') ∧
    (sign = [] ∨ sign = ['+'] ∨ sign = ['-']) ∧ IsDigits digits ∧
    chars = letter :: (sign ++ digits)

/-- The text of a number: a minus sign on demand, an integral part, a fraction
and an exponent. -/
def IsNumber (chars : List Char) : Prop :=
  ∃ sign integral fraction exponent, (sign = [] ∨ sign = ['-']) ∧
    IsIntegral integral ∧ IsFraction fraction ∧ IsExponent exponent ∧
    chars = sign ++ integral ++ fraction ++ exponent

/-- The characters of a lexeme. -/
inductive SpellsLexeme : Lexeme → List Char → Prop where
  | beginArray : SpellsLexeme .beginArray ['[']
  | endArray : SpellsLexeme .endArray [']']
  | beginObject : SpellsLexeme .beginObject ['\x7b']
  | endObject : SpellsLexeme .endObject ['\x7d']
  | comma : SpellsLexeme .comma [',']
  | colon : SpellsLexeme .colon [':']
  | null : SpellsLexeme .null ['n', 'u', 'l', 'l']
  | true : SpellsLexeme (.bool true) ['t', 'r', 'u', 'e']
  | false : SpellsLexeme (.bool false) ['f', 'a', 'l', 's', 'e']
  | number {lexeme : List Char} (number : IsNumber lexeme) :
      SpellsLexeme (.number lexeme) lexeme
  | text {content spelling : List Char}
      (spelled : SpellsChars content spelling) :
      SpellsLexeme (.text (Text.ofChars content))
        ('"' :: (spelling ++ ['"']))

/-- A row of white space. -/
def IsSpace (chars : List Char) : Prop :=
  ∀ char ∈ chars, isSpace char = true

/-- Lexemes in order, with any white space in front of each and behind the
last one. -/
inductive SpellsLexemes : List Lexeme → List Char → Prop where
  | nil {space : List Char} (blank : IsSpace space) : SpellsLexemes [] space
  | cons {lexeme : Lexeme} {lexemes : List Lexeme}
      {space spelling rest : List Char} (blank : IsSpace space)
      (head : SpellsLexeme lexeme spelling)
      (tail : SpellsLexemes lexemes rest) :
      SpellsLexemes (lexeme :: lexemes) (space ++ (spelling ++ rest))

theorem SpellsLexemes.next {lexeme : Lexeme} {lexemes : List Lexeme}
    {spelling rest : List Char} (head : SpellsLexeme lexeme spelling)
    (tail : SpellsLexemes lexemes rest) :
    SpellsLexemes (lexeme :: lexemes) (spelling ++ rest) :=
  have none : IsSpace [] := fun _ member => absurd member List.not_mem_nil
  .cons none head tail

theorem SpellsLexemes.behind {lexemes : List Lexeme} {chars : List Char}
    (char : Char) (blank : isSpace char = true)
    (spelled : SpellsLexemes lexemes chars) :
    SpellsLexemes lexemes (char :: chars) := by
  have more : ∀ {space : List Char}, IsSpace space → IsSpace (char :: space) :=
    fun others => List.forall_mem_cons.mpr ⟨blank, others⟩
  cases spelled with
  | nil others => exact .nil (more others)
  | cons others head tail => exact .cons (more others) head tail

/-- A text without quote marks, backslashes and control characters is spelled
by itself between quote marks. -/
theorem SpellsLexeme.plain (content : List Char)
    (simple : ∀ char ∈ content,
      0x20 ≤ char.toNat ∧ char ≠ '"' ∧ char ≠ '\\') :
    SpellsLexeme (.text (Text.ofChars content))
      ('"' :: (content ++ ['"'])) := by
  refine .text ?_
  induction content with
  | nil => exact .nil
  | cons char content ih =>
      obtain ⟨⟨noControl, noQuote, noBackslash⟩, others⟩ :=
        List.forall_mem_cons.mp simple
      exact .cons (.plain noControl noQuote noBackslash) (ih others)

mutual

/-- The lexemes of a document. -/
def lexemes : Json → List Lexeme
  | null => [.null]
  | bool truth => [.bool truth]
  | number lexeme => [.number lexeme]
  | text content => [.text content]
  | array [] => [.beginArray, .endArray]
  | array (item :: items) =>
      .beginArray :: (item.lexemes ++ laterItems items)
  | object [] => [.beginObject, .endObject]
  | object ((name, member) :: members) =>
      .beginObject :: .text name :: .colon ::
        (member.lexemes ++ laterMembers members)

/-- The lexemes behind an item of an array. -/
def laterItems : List Json → List Lexeme
  | [] => [.endArray]
  | item :: items => .comma :: (item.lexemes ++ laterItems items)

/-- The lexemes behind a member of an object. -/
def laterMembers : List (Text × Json) → List Lexeme
  | [] => [.endObject]
  | (name, member) :: members =>
      .comma :: .text name :: .colon ::
        (member.lexemes ++ laterMembers members)

end

mutual

/-- The number of arrays and objects that enclose each other. -/
def depth : Json → Nat
  | array items => itemsDepth items + 1
  | object members => membersDepth members + 1
  | _ => 0

/-- The greatest depth of items. -/
def itemsDepth : List Json → Nat
  | [] => 0
  | item :: items => max item.depth (itemsDepth items)

/-- The greatest depth of members. -/
def membersDepth : List (Text × Json) → Nat
  | [] => 0
  | (_, member) :: members => max member.depth (membersDepth members)

end

/-- Characters that spell a document. -/
def IsSpelledBy (document : Json) (chars : List Char) : Prop :=
  SpellsLexemes document.lexemes chars

end Json

end VestingContract
