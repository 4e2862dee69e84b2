import Mathlib.Data.List.TakeWhile
import VestingContract.Proofs.Json.Spelling

/-!
# Lexemes of spelled documents

A spelled document is cut into the lexemes that it spells.  Every lexeme is
found at its first character and covers all of its characters; only a number
needs something behind it that does not go on with the number.
-/

namespace VestingContract

theorem CodePoint.ofNat?_toNat (char : Char) :
    CodePoint.ofNat? char.toNat = some (.scalar char) := by
  have valid : char.toNat < 0xD800 ∨ 0xDFFF < char.toNat ∧
      char.toNat < 0x110000 := char.valid
  have noSurrogate : ¬ (0xD800 ≤ char.toNat ∧ char.toNat < 0xE000) := by
    omega
  have inside : char.toNat < 0x110000 := by omega
  rw [CodePoint.ofNat?, dif_neg noSurrogate, if_pos inside, Char.ofNat_toNat]

/-- A character beyond sixteen bits is the pair of two halves. -/
theorem CodePoint.exists_halves {char : Char} (large : 0x10000 ≤ char.toNat) :
    ∃ leading trailing,
      CodePoint.ofNat? (0xD800 + (char.toNat - 0x10000) / 0x400) =
        some leading ∧
      CodePoint.ofNat? (0xDC00 + (char.toNat - 0x10000) % 0x400) =
        some trailing ∧
      leading.isLeadingSurrogate = true ∧
      trailing.isTrailingSurrogate = true ∧
      CodePoint.ofPair leading trailing = .scalar char := by
  have valid : char.toNat < 0xD800 ∨ 0xDFFF < char.toNat ∧
      char.toNat < 0x110000 := char.valid
  refine ⟨.surrogate ⟨(char.toNat - 0x10000) / 0x400, by omega⟩,
    .surrogate ⟨0x400 + (char.toNat - 0x10000) % 0x400, by omega⟩,
    ?_, ?_, ?_, ?_, ?_⟩
  · rw [CodePoint.ofNat?, dif_pos (by omega)]
    simp
  · rw [CodePoint.ofNat?, dif_pos (by omega)]
    simp
    omega
  · simp only [CodePoint.isLeadingSurrogate, decide_eq_true_eq]
    omega
  · simp only [CodePoint.isTrailingSurrogate, decide_eq_true_eq]
    omega
  · have number : 0x10000 +
        (0xD800 + (char.toNat - 0x10000) / 0x400 - 0xD800) * 1024 +
        (0xD800 + (0x400 + (char.toNat - 0x10000) % 0x400) - 0xDC00) =
        char.toNat := by omega
    simp only [CodePoint.ofPair, CodePoint.value, number, Char.ofNat_toNat]

namespace Json

section Escapes

/-- Four hexadecimal digits are read as the bits that they spell. -/
theorem SpellsUnit.ofHexDigits? {unit : Nat} {spelling : List Char}
    (spelled : SpellsUnit unit spelling) :
    ∃ first second third fourth,
      spelling = ['\\', 'u', first, second, third, fourth] ∧
      Json.ofHexDigits? first second third fourth =
        CodePoint.ofNat? unit := by
  have digitValue : ∀ digit ∈ hexDigits, hexValue? digit.1 = some digit.2 := by
    decide
  cases spelled with
  | @digits first second third fourth firstDigit secondDigit thirdDigit
      fourthDigit =>
      refine ⟨first.1, second.1, third.1, fourth.1, rfl, ?_⟩
      simp only [Json.ofHexDigits?, digitValue first firstDigit,
        digitValue second secondDigit, digitValue third thirdDigit,
        digitValue fourth fourthDigit, Option.bind_eq_bind, Option.bind_some]
      congr 1
      omega

theorem shortEscapes_simpleEscape? :
    ∀ escape ∈ shortEscapes,
      simpleEscape? escape.1 = some (.scalar escape.2) ∧ escape.1 ≠ 'u' := by
  decide

variable (opening position : Nat) {char : Char}

theorem readText_spelling {spelling : List Char}
    (spelled : SpellsChar char spelling) (next : Char) (rest : List Char) :
    readText opening position (spelling ++ next :: rest) =
      (readText opening (position + spelling.length) (next :: rest)).map
        (.cons (.scalar char) spelling.length) := by
  cases spelled with
  | plain noControl noQuote noBackslash =>
      have printable : ¬ char.toNat < 0x20 := by omega
      simp [readText, noBackslash, printable]
  | @short letter escape =>
      obtain ⟨simple, notUnit⟩ := shortEscapes_simpleEscape? _ escape
      simp only at simple notUnit
      simp [readText, simple]
  | unit spelled =>
      obtain ⟨first, second, third, fourth, rfl, value⟩ :=
        spelled.ofHexDigits?
      rw [CodePoint.ofNat?_toNat] at value
      have noPair : (CodePoint.scalar char).isLeadingSurrogate = false := rfl
      simp only [List.cons_append, List.nil_append, readText, value, noPair]
      split
      · rfl
      · rfl
  | pair large high low =>
      obtain ⟨leading, trailing, leadingEq, trailingEq, isLeading, isTrailing,
        pairEq⟩ := CodePoint.exists_halves large
      obtain ⟨first, second, third, fourth, rfl, highValue⟩ :=
        high.ofHexDigits?
      obtain ⟨fifth, sixth, seventh, eighth, rfl, lowValue⟩ :=
        low.ofHexDigits?
      rw [leadingEq] at highValue
      rw [trailingEq] at lowValue
      simp only [List.cons_append, List.nil_append, readText, highValue,
        lowValue, isLeading, isTrailing, if_true, pairEq]
      rfl

/-- A spelled text is read up to its closing mark. -/
theorem readText_spellings {content spelling : List Char}
    (spelled : SpellsChars content spelling) (rest : List Char) :
    readText opening position (spelling ++ '"' :: rest) =
      .ok ⟨Text.ofChars content, spelling.length + 1⟩ := by
  induction spelled generalizing position with
  | nil => simp [readText, Text.ofChars]
  | @cons char chars spelling others head tail ih =>
      -- Behind the spelling of a character there is always another one, at
      -- the latest the closing mark.
      obtain ⟨next, later, behind⟩ : ∃ next later,
          others ++ '"' :: rest = next :: later := by
        cases others with
        | nil => exact ⟨_, _, rfl⟩
        | cons next later => exact ⟨_, _, rfl⟩
      have step := readText_spelling opening position head next later
      rw [← behind, ih] at step
      rw [List.append_assoc, step]
      simp [Except.map, Reading.cons, Text.ofChars, Nat.add_assoc]

end Escapes

section Numbers

/-- Characters that do not go on with a number. -/
def EndsNumber (rest : List Char) : Prop :=
  ∀ char, rest.head? = some char →
    isDigit char = false ∧ char ≠ '.' ∧ char ≠ 'e' ∧ char ≠ 'E'

theorem takeWhile_digits {digits rest : List Char}
    (all : ∀ char ∈ digits, isDigit char = true)
    (stop : ∀ char, rest.head? = some char → isDigit char = false) :
    (digits ++ rest).takeWhile isDigit = digits := by
  rw [List.takeWhile_append_of_pos all]
  cases rest with
  | nil => simp
  | cons char rest => simp [stop char rfl]

/-- A fraction and an exponent do not begin with a digit. -/
theorem IsFraction.head_not_digit {fraction rest : List Char}
    (isFraction : IsFraction fraction)
    (stop : ∀ char, rest.head? = some char → isDigit char = false) :
    ∀ char, (fraction ++ rest).head? = some char → isDigit char = false := by
  intro char head
  rcases isFraction with rfl | ⟨digits, -, rfl⟩
  · exact stop char head
  · simp only [List.cons_append, List.head?_cons, Option.some.injEq] at head
    subst head
    decide

theorem IsExponent.head_eq {exponent rest : List Char}
    (isExponent : IsExponent exponent) (ends : EndsNumber rest) :
    ∀ char, (exponent ++ rest).head? = some char →
      isDigit char = false ∧ char ≠ '.' := by
  intro char head
  rcases isExponent with rfl | ⟨letter, sign, digits, either, -, -, rfl⟩
  · exact ⟨(ends char head).1, (ends char head).2.1⟩
  · simp only [List.cons_append, List.head?_cons, Option.some.injEq] at head
    subst head
    rcases either with rfl | rfl <;> decide

theorem integralDigits_append {integral rest : List Char}
    (isIntegral : IsIntegral integral)
    (stop : ∀ char, rest.head? = some char → isDigit char = false) :
    integralDigits (integral ++ rest) = integral := by
  rcases isIntegral with rfl | ⟨⟨nonempty, all⟩, noZero⟩
  · rfl
  · cases integral with
    | nil => exact absurd rfl nonempty
    | cons first others =>
        have firstOther : first ≠ '0' := by simpa using noZero
        rw [List.cons_append, integralDigits]
        · rw [← List.cons_append, takeWhile_digits all stop]
        · intro tail equal
          exact firstOther (List.cons.inj equal).1

theorem fractionPart_append {fraction rest : List Char}
    (isFraction : IsFraction fraction)
    (stop : ∀ char, rest.head? = some char →
      isDigit char = false ∧ char ≠ '.') :
    fractionPart (fraction ++ rest) = fraction := by
  rcases isFraction with rfl | ⟨digits, ⟨nonempty, all⟩, rfl⟩
  · rw [List.nil_append, fractionPart]
    intro tail equal
    exact (stop '.' (by simp [equal])).2 rfl
  · have taken := takeWhile_digits all fun char head => (stop char head).1
    simp [fractionPart, taken, nonempty]

theorem exponentDigits_append {exponent rest : List Char}
    (isExponent : IsExponent exponent) (ends : EndsNumber rest) :
    exponentDigits (exponent ++ rest) = exponent := by
  rcases isExponent with
    rfl | ⟨letter, sign, digits, either, signs, ⟨nonempty, all⟩, rfl⟩
  · cases rest with
    | nil => rfl
    | cons char rest =>
        obtain ⟨-, -, notSmall, notLarge⟩ := ends char rfl
        simp [exponentDigits, notSmall, notLarge]
  · have taken := takeWhile_digits all fun char head => (ends char head).1
    have isLetter : (letter == 'e' || letter == 'E') = true := by
      simpa using either
    have signEq : exponentSign (sign ++ (digits ++ rest)) = sign := by
      rcases signs with rfl | rfl | rfl
      · cases digits with
        | nil => exact absurd rfl nonempty
        | cons first others =>
            have digit := all first (by simp)
            have noPlus : first ≠ '+' := by
              rintro rfl
              exact absurd digit (by decide)
            have noMinus : first ≠ '-' := by
              rintro rfl
              exact absurd digit (by decide)
            simp [exponentSign, noPlus, noMinus]
      · rfl
      · rfl
    simp [exponentDigits, isLetter, signEq, taken, nonempty]

/-- A number is cut off where something else follows. -/
theorem numberLexeme?_append {lexeme rest : List Char}
    (isNumber : IsNumber lexeme) (ends : EndsNumber rest) :
    numberLexeme? (lexeme ++ rest) = some lexeme := by
  obtain ⟨sign, integral, fraction, exponent, signs, isIntegral, isFraction,
    isExponent, rfl⟩ := isNumber
  have behindFraction := isExponent.head_eq ends
  have behindIntegral := isFraction.head_not_digit fun char head =>
    (behindFraction char head).1
  have integralEq := integralDigits_append isIntegral behindIntegral
  have fractionEq := fractionPart_append isFraction behindFraction
  have exponentEq := exponentDigits_append isExponent ends
  have nonempty : integral ≠ [] := by
    rcases isIntegral with rfl | ⟨⟨nonempty, -⟩, -⟩
    · simp
    · exact nonempty
  have signEq : (if (sign ++ (integral ++ (fraction ++ (exponent ++ rest)))
      ).head? = some '-' then ['-'] else []) = sign := by
    rcases signs with rfl | rfl
    · cases integral with
      | nil => exact absurd rfl nonempty
      | cons first others =>
          have notMinus : first ≠ '-' := by
            rintro rfl
            rcases isIntegral with equal | ⟨⟨-, all⟩, -⟩
            · exact absurd (List.cons.inj equal).1 (by decide)
            · exact absurd (all '-' (by simp)) (by decide)
          simp [notMinus]
    · rfl
  simp only [List.append_assoc, numberLexeme?, signEq, List.drop_left,
    integralEq, fractionEq, exponentEq, List.isEmpty_iff, nonempty, if_false]

end Numbers

/-- A lexeme that is a number. -/
def Lexeme.isNumber : Lexeme → Bool
  | .number _ => true
  | _ => false

/-- A bracket, a comma or a colon. -/
def Lexeme.isPunctuation : Lexeme → Bool
  | .beginArray | .endArray | .beginObject | .endObject | .comma | .colon =>
      true
  | _ => false

/-- Lexemes that may stand directly behind a number. -/
def MayFollowNumber : List Lexeme → Prop
  | [] => True
  | lexeme :: _ => lexeme.isPunctuation = true

/-- No number touches a lexeme that could go on with it. -/
def Separated : List Lexeme → Prop
  | [] => True
  | lexeme :: lexemes =>
      (lexeme.isNumber = true → MayFollowNumber lexemes) ∧ Separated lexemes

section Lexemes

theorem EndsNumber.of_isSpace {char : Char} (blank : isSpace char = true)
    (rest : List Char) : EndsNumber (char :: rest) := by
  intro other head
  simp only [List.head?_cons, Option.some.injEq] at head
  subst head
  simp only [isSpace, Bool.or_eq_true, beq_iff_eq] at blank
  rcases blank with ((rfl | rfl) | rfl) | rfl <;> decide

/-- What may follow a number ends it, however it is spelled. -/
theorem SpellsLexemes.endsNumber {lexemes : List Lexeme} {chars : List Char}
    (spelled : SpellsLexemes lexemes chars)
    (follows : MayFollowNumber lexemes) : EndsNumber chars := by
  cases spelled with
  | nil blank =>
      cases chars with
      | nil => intro char head; simp at head
      | cons char chars => exact .of_isSpace (blank char (by simp)) chars
  | @cons lexeme lexemes space spelling rest blank head tail =>
      cases space with
      | cons char space =>
          exact .of_isSpace (blank char (by simp)) _
      | nil =>
          cases head <;>
            first
            | (intro char begins
               simp only [List.nil_append, List.cons_append, List.head?_cons,
                 Option.some.injEq] at begins
               subst begins
               decide)
            | exact absurd follows (by simp [MayFollowNumber,
                Lexeme.isPunctuation])

theorem IsNumber.cases_head {lexeme : List Char} (isNumber : IsNumber lexeme) :
    ∃ first others, lexeme = first :: others ∧
      (isDigit first = true ∨
        first = '-' ∧ ∃ second rest, others = second :: rest ∧
          isDigit second = true) := by
  obtain ⟨sign, integral, fraction, exponent, signs, isIntegral, -, -, rfl⟩ :=
    isNumber
  obtain ⟨first, others, rfl, digit⟩ : ∃ first others,
      integral = first :: others ∧ isDigit first = true := by
    rcases isIntegral with rfl | ⟨⟨nonempty, all⟩, -⟩
    · exact ⟨'0', [], rfl, by decide⟩
    · cases integral with
      | nil => exact absurd rfl nonempty
      | cons first others => exact ⟨first, others, rfl, all first (by simp)⟩
  rcases signs with rfl | rfl
  · exact ⟨first, _, rfl, .inl digit⟩
  · exact ⟨'-', _, rfl, .inr ⟨rfl, first, _, rfl, digit⟩⟩

theorem isDigit.not_mem {char : Char} (digit : isDigit char = true)
    {others : List Char}
    (noDigits : others.all (fun other => !isDigit other) = true) :
    char ∉ others := by
  intro member
  have other := List.all_eq_true.mp noDigits char member
  rw [digit] at other
  exact absurd other (by decide)

/-- No word begins with a digit, and none with a minus sign and a digit. -/
theorem IsNumber.find?_words {lexeme : List Char}
    (isNumber : IsNumber lexeme) (rest : List Char) :
    words.find? (fun word => word.1.isPrefixOf (lexeme ++ rest)) = none := by
  obtain ⟨first, others, rfl, begins⟩ := isNumber.cases_head
  rw [List.find?_eq_none]
  intro word member begun
  rw [List.isPrefixOf_iff_prefix, List.cons_append] at begun
  rcases begins with digit | ⟨rfl, second, later, rfl, digit⟩
  · have noDigit : ∀ word ∈ words, ∃ head tail, word.1 = head :: tail ∧
        isDigit head = false := by
      simp [words, isDigit]
    obtain ⟨head, tail, wordEq, other⟩ := noDigit word member
    rw [wordEq, List.cons_prefix_cons] at begun
    rw [begun.1, digit] at other
    exact absurd other (by decide)
  · have noSecond : ∀ word ∈ words, ∃ head next tail,
        word.1 = head :: next :: tail ∧
        (head ≠ '-' ∨ isDigit next = false) := by
      intro word member
      simp only [words, List.mem_cons, List.not_mem_nil, or_false] at member
      rcases member with rfl | rfl | rfl | rfl | rfl | rfl <;>
        exact ⟨_, _, _, rfl, by decide⟩
    obtain ⟨head, next, tail, wordEq, other⟩ := noSecond word member
    rw [wordEq, List.cons_append, List.cons_prefix_cons,
      List.cons_prefix_cons] at begun
    rw [begun.1, begun.2.1, digit] at other
    exact absurd other (by decide)

/-- What begins neither with white space nor with a mark is a word or a
number. -/
theorem firstLexeme_eq_wordOrNumber (position : Nat) {char : Char}
    (noMark : char ∉ [' ', '\t', '\n', '\r', '[', ']', '\x7b', '\x7d', ',',
      ':', '"']) (rest : List Char) :
    firstLexeme position char rest =
      (some (wordOrNumber (char :: rest)).1,
        (wordOrNumber (char :: rest)).2) := by
  simp only [List.mem_cons, List.not_mem_nil, or_false, not_or] at noMark
  obtain ⟨noBlank, noTab, noFeed, noReturn, others⟩ := noMark
  have noSpace : isSpace char = false := by
    simp [isSpace, noBlank, noTab, noFeed, noReturn]
  unfold firstLexeme
  rw [noSpace]
  simp only [Bool.false_eq_true, if_false]
  split <;> simp_all

theorem firstLexeme_number {lexeme rest : List Char}
    (isNumber : IsNumber lexeme) (ends : EndsNumber rest) (position : Nat) :
    ∃ char tail, lexeme = char :: tail ∧
      firstLexeme position char (tail ++ rest) =
        (some (.number lexeme), lexeme.length) := by
  have whole := numberLexeme?_append isNumber ends
  have noWord := isNumber.find?_words rest
  obtain ⟨first, others, rfl, begins⟩ := isNumber.cases_head
  have noMark : first ∉ [' ', '\t', '\n', '\r', '[', ']', '\x7b', '\x7d', ',',
      ':', '"'] := by
    rcases begins with digit | ⟨rfl, -⟩
    · exact isDigit.not_mem digit (by decide)
    · decide
  refine ⟨first, others, rfl, ?_⟩
  rw [firstLexeme_eq_wordOrNumber position noMark, wordOrNumber,
    ← List.cons_append, noWord, whole]

/-- A lexeme is found at its first character, and it covers the characters
that spell it. -/
theorem firstLexeme_spelling {lexeme : Lexeme} {spelling rest : List Char}
    (spelled : SpellsLexeme lexeme spelling)
    (ends : lexeme.isNumber = true → EndsNumber rest) (position : Nat) :
    ∃ char tail, spelling = char :: tail ∧
      firstLexeme position char (tail ++ rest) =
        (some lexeme, spelling.length) := by
  cases spelled with
  | number isNumber => exact firstLexeme_number isNumber (ends rfl) position
  | @text content spelling spelled =>
      refine ⟨'"', spelling ++ ['"'], rfl, ?_⟩
      have read := readText_spellings position (position + 1) spelled rest
      have noSpace : isSpace '"' = false := by decide
      rw [List.append_assoc, List.cons_append, List.nil_append]
      simp only [firstLexeme, noSpace, Bool.false_eq_true, if_false, read,
        List.length_cons, List.length_append, List.length_nil]
      rw [Nat.add_comm 1]
  | null | true | false =>
      refine ⟨_, _, rfl, ?_⟩
      rw [firstLexeme_eq_wordOrNumber position (by decide)]
      simp [wordOrNumber, words]
  | beginArray | endArray | beginObject | endObject | comma | colon =>
      exact ⟨_, _, rfl, rfl⟩

theorem lexFrom_covered (position : Nat) (covered rest : List Char) :
    lexFrom position covered.length (covered ++ rest) =
      lexFrom (position + covered.length) 0 rest := by
  induction covered generalizing position with
  | nil => rfl
  | cons char chars ih =>
      rw [List.cons_append, List.length_cons, lexFrom, ih]
      congr 1
      omega

theorem lexFrom_space (position : Nat) {space : List Char}
    (blank : IsSpace space) (rest : List Char) :
    lexFrom position 0 (space ++ rest) =
      lexFrom (position + space.length) 0 rest := by
  induction space generalizing position with
  | nil => rfl
  | cons char chars ih =>
      have first : isSpace char = true := blank char (by simp)
      have others : IsSpace chars := fun other member =>
        blank other (by simp [member])
      have none : firstLexeme position char (chars ++ rest) = (none, 1) := by
        unfold firstLexeme
        exact if_pos first
      rw [List.cons_append, lexFrom, none, List.length_cons]
      simp only [Nat.sub_self]
      rw [ih _ others]
      congr 1
      omega

/-- Characters are cut into the lexemes that they spell. -/
theorem lexFrom_spelling {lexemes : List Lexeme} {chars : List Char}
    (spelled : SpellsLexemes lexemes chars) (separated : Separated lexemes)
    (position : Nat) : (lexFrom position 0 chars).map Prod.snd = lexemes := by
  induction spelled generalizing position with
  | @nil space blank =>
      have passed := lexFrom_space position blank []
      rw [List.append_nil] at passed
      rw [passed, lexFrom, List.map_nil]
  | @cons lexeme lexemes space spelling rest blank head tail ih =>
      obtain ⟨follows, later⟩ := separated
      obtain ⟨char, others, rfl, found⟩ :=
        firstLexeme_spelling head (fun number => tail.endsNumber
          (follows number)) (position + space.length)
      rw [lexFrom_space position blank, List.cons_append, lexFrom, found]
      simp only [List.length_cons, Nat.add_sub_cancel, List.map_cons]
      rw [lexFrom_covered, ih later]

end Lexemes

end Json

end VestingContract
