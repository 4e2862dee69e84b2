import VestingContract.Proofs.Dataset.Contents
import VestingContract.Proofs.Json.Flattening

/-!
# Characters of numbers

The numbers of a document that is read are made of digits, signs, points and
the letters of exponents.
-/

namespace VestingContract.Json

/-- A character of numbers. -/
def isNumeral (char : Char) : Bool :=
  isDigit char || char == '-' || char == '+' || char == '.' || char == 'e' ||
    char == 'E'

section Lexemes

theorem isNumeral_of_isDigit {char : Char} (digit : isDigit char = true) :
    isNumeral char = true := by
  simp [isNumeral, digit]

theorem isNumeral_takeWhile (chars : List Char) :
    ∀ char ∈ chars.takeWhile isDigit, isNumeral char = true :=
  fun _ member => isNumeral_of_isDigit (List.mem_takeWhile_imp member)

theorem isNumeral_integralDigits (chars : List Char) :
    ∀ char ∈ integralDigits chars, isNumeral char = true := by
  rw [integralDigits.eq_def]
  split
  · exact List.forall_mem_singleton.mpr (by decide)
  · exact isNumeral_takeWhile chars

theorem isNumeral_fractionPart (chars : List Char) :
    ∀ char ∈ fractionPart chars, isNumeral char = true := by
  rw [fractionPart.eq_def]
  split
  · next rest =>
      dsimp only
      split
      · exact List.forall_mem_nil _
      · exact List.forall_mem_cons.mpr ⟨by decide, isNumeral_takeWhile rest⟩
  · exact List.forall_mem_nil _

theorem isNumeral_exponentSign (chars : List Char) :
    ∀ char ∈ exponentSign chars, isNumeral char = true := by
  rw [exponentSign.eq_def]
  split
  · exact List.forall_mem_singleton.mpr (by decide)
  · exact List.forall_mem_singleton.mpr (by decide)
  · exact List.forall_mem_nil _

theorem isNumeral_exponentDigits (chars : List Char) :
    ∀ char ∈ exponentDigits chars, isNumeral char = true := by
  rw [exponentDigits.eq_def]
  split
  · next letter rest =>
      dsimp only
      split
      · next isExponent =>
          refine List.forall_mem_cons.mpr ⟨?_, List.forall_mem_append.mpr
            ⟨isNumeral_exponentSign rest, isNumeral_takeWhile _⟩⟩
          simp only [Bool.and_eq_true, Bool.or_eq_true] at isExponent
          rcases isExponent.1 with isLetter | isLetter <;>
            simp [isNumeral, isLetter]
      · exact List.forall_mem_nil _
  · exact List.forall_mem_nil _

theorem isNumeral_numberLexeme? {chars lexeme : List Char}
    (found : numberLexeme? chars = some lexeme) :
    ∀ char ∈ lexeme, isNumeral char = true := by
  rw [numberLexeme?.eq_def] at found
  dsimp only at found
  have sign : ∀ char ∈ (if chars.head? = some '-' then ['-'] else []),
      isNumeral char = true := by
    split
    · exact List.forall_mem_singleton.mpr (by decide)
    · exact List.forall_mem_nil _
  generalize (if chars.head? = some '-' then ['-'] else []) = minus
    at found sign
  split at found
  · cases found
  · obtain rfl := Option.some.inj found
    simp only [List.forall_mem_append]
    exact ⟨⟨⟨sign, isNumeral_integralDigits _⟩, isNumeral_fractionPart _⟩,
      isNumeral_exponentDigits _⟩

theorem isNumeral_of_firstLexeme {position length : Nat} {char : Char}
    {rest lexeme : List Char}
    (first : firstLexeme position char rest =
      (some (.number lexeme), length)) :
    ∀ char ∈ lexeme, isNumeral char = true := by
  unfold firstLexeme at first
  split at first
  · cases first
  · split at first
    case h_7 => split at first <;> cases first
    case h_8 =>
      have isFirst : (wordOrNumber (char :: rest)).1 = .number lexeme :=
        Option.some.inj (Prod.mk.inj first).1
      unfold wordOrNumber at isFirst
      split at isFirst
      · next word found =>
          have noWord : ∀ word ∈ words, word.2 ≠ .number lexeme := by
            simp [words]
          exact absurd isFirst (noWord word (List.mem_of_find?_eq_some found))
      · split at isFirst
        · next found =>
            cases isFirst
            exact isNumeral_numberLexeme? found
        · cases isFirst
    all_goals cases first

theorem isNumeral_of_lexFrom {position covered : Nat}
    {chars lexeme : List Char}
    (isLexeme : .number lexeme ∈
      (lexFrom position covered chars).map Prod.snd) :
    ∀ char ∈ lexeme, isNumeral char = true := by
  induction chars generalizing position covered with
  | nil => simp [lexFrom] at isLexeme
  | cons char rest ih =>
      cases covered with
      | succ covered =>
          rw [lexFrom] at isLexeme
          exact ih isLexeme
      | zero =>
          rw [lexFrom] at isLexeme
          rcases found : firstLexeme position char rest with
            ⟨_ | first, length⟩
          · rw [found] at isLexeme
            exact ih isLexeme
          · rw [found, List.map_cons, List.mem_cons] at isLexeme
            rcases isLexeme with rfl | isLater
            · exact isNumeral_of_firstLexeme found
            · exact ih isLater

end Lexemes

section Numbers

mutual

/-- The numbers of a document are among its lexemes. -/
theorem number_mem_lexemes {lexeme : List Char} : (document : Json) →
    lexeme ∈ document.numbers → .number lexeme ∈ document.lexemes
  | number _, member => by
      obtain rfl := List.mem_singleton.mp member
      exact List.mem_singleton_self _
  | array (item :: items), member => by
      rw [numbers, itemsNumbers, List.mem_append] at member
      rw [lexemes]
      refine List.mem_cons_of_mem _ (List.mem_append.mpr ?_)
      exact member.imp (number_mem_lexemes item)
        (number_mem_laterItems items)
  | object ((_, value) :: members), member => by
      rw [numbers, membersNumbers, List.mem_append] at member
      rw [lexemes]
      refine List.mem_cons_of_mem _ (List.mem_cons_of_mem _
        (List.mem_cons_of_mem _ (List.mem_append.mpr ?_)))
      exact member.imp (number_mem_lexemes value)
        (number_mem_laterMembers members)
  | null, member | bool _, member | text _, member | array [], member
  | object [], member => nomatch member

theorem number_mem_laterItems {lexeme : List Char} : (items : List Json) →
    lexeme ∈ itemsNumbers items → .number lexeme ∈ laterItems items
  | [], member => nomatch member
  | item :: items, member => by
      rw [itemsNumbers, List.mem_append] at member
      rw [laterItems]
      refine List.mem_cons_of_mem _ (List.mem_append.mpr ?_)
      exact member.imp (number_mem_lexemes item)
        (number_mem_laterItems items)

theorem number_mem_laterMembers {lexeme : List Char} :
    (members : List (Text × Json)) → lexeme ∈ membersNumbers members →
      .number lexeme ∈ laterMembers members
  | [], member => nomatch member
  | (_, value) :: members, member => by
      rw [membersNumbers, List.mem_append] at member
      rw [laterMembers]
      refine List.mem_cons_of_mem _ (List.mem_cons_of_mem _
        (List.mem_cons_of_mem _ (List.mem_append.mpr ?_)))
      exact member.imp (number_mem_lexemes value)
        (number_mem_laterMembers members)

end

/-- The numbers of a document that is read are made of characters of
numbers. -/
theorem isNumeral_of_read {limit : Nat} {chars : List Char}
    {document : Json} (isRead : read limit chars = .ok document) :
    ∀ lexeme ∈ document.numbers, ∀ char ∈ lexeme, isNumeral char = true := by
  intro lexeme isNumber
  have isLexeme := number_mem_lexemes document isNumber
  rw [lexemes_of_read isRead] at isLexeme
  exact isNumeral_of_lexFrom isLexeme

end Numbers

end VestingContract.Json
