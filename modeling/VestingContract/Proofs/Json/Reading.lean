import VestingContract.Proofs.Json.Lexing
import VestingContract.Text.Newlines

/-!
# Reading spelled documents

Every spelling of a document is read as that document, as long as no more
containers enclose each other than the reader allows.  A spelling stays one
when its line ends are unified, since a lexeme holds no line end.
-/

namespace VestingContract.Json

section Order

/-- Lexemes in order behind those of a document, none of which touches a
number that it could go on with. -/
theorem separated_cons {lexeme : Lexeme} {rest : List Lexeme}
    (noNumber : lexeme.isNumber = false) (separated : Separated rest) :
    Separated (lexeme :: rest) := by
  refine ⟨fun number => ?_, separated⟩
  rw [noNumber] at number
  exact absurd number (by decide)

mutual

/-- A number in a document has a comma, a closing bracket or nothing behind
it. -/
theorem separated_lexemes {rest : List Lexeme} (separated : Separated rest)
    (follows : MayFollowNumber rest) :
    (document : Json) → Separated (document.lexemes ++ rest)
  | null => separated_cons rfl separated
  | bool _ => separated_cons rfl separated
  | number _ => ⟨fun _ => follows, separated⟩
  | text _ => separated_cons rfl separated
  | array [] => separated_cons rfl (separated_cons rfl separated)
  | array (item :: items) => by
      have later := separated_laterItems separated items
      have first := separated_lexemes later.1 later.2 item
      rw [lexemes, List.cons_append, List.append_assoc]
      exact separated_cons rfl first
  | object [] => separated_cons rfl (separated_cons rfl separated)
  | object ((name, member) :: members) => by
      have later := separated_laterMembers separated members
      have first := separated_lexemes later.1 later.2 member
      simp only [lexemes, List.cons_append, List.append_assoc]
      exact separated_cons rfl (separated_cons rfl (separated_cons rfl first))

theorem separated_laterItems {rest : List Lexeme}
    (separated : Separated rest) :
    (items : List Json) → Separated (laterItems items ++ rest) ∧
      MayFollowNumber (laterItems items ++ rest)
  | [] => ⟨separated_cons rfl separated, rfl⟩
  | item :: items => by
      have later := separated_laterItems separated items
      have first := separated_lexemes later.1 later.2 item
      rw [laterItems, List.cons_append, List.append_assoc]
      exact ⟨separated_cons rfl first, rfl⟩

theorem separated_laterMembers {rest : List Lexeme}
    (separated : Separated rest) :
    (members : List (Text × Json)) →
      Separated (laterMembers members ++ rest) ∧
        MayFollowNumber (laterMembers members ++ rest)
  | [] => ⟨separated_cons rfl separated, rfl⟩
  | (name, member) :: members => by
      have later := separated_laterMembers separated members
      have first := separated_lexemes later.1 later.2 member
      simp only [laterMembers, List.cons_append, List.append_assoc]
      exact ⟨separated_cons rfl (separated_cons rfl
        (separated_cons rfl first)), rfl⟩

end

end Order

section Steps

variable {limit : Nat}

/-- A reader takes lexemes, wherever they stand, and arrives at another
point. -/
def Runs (limit : Nat) (reader : Reader) (lexemes : List Lexeme)
    (result : Reader) : Prop :=
  ∀ positioned : List (Nat × Lexeme), positioned.map Prod.snd = lexemes →
    positioned.foldlM (Reader.step limit) reader = .ok result

theorem Runs.nil (reader : Reader) : Runs limit reader [] reader := by
  intro positioned lexemesEq
  rw [List.map_eq_nil_iff] at lexemesEq
  subst lexemesEq
  rfl

theorem Runs.cons {reader next result : Reader} {lexeme : Lexeme}
    {lexemes : List Lexeme}
    (step : ∀ position,
      Reader.step limit reader (position, lexeme) = .ok next)
    (later : Runs limit next lexemes result) :
    Runs limit reader (lexeme :: lexemes) result := by
  intro positioned lexemesEq
  obtain ⟨⟨position, head⟩, others, rfl, headEq, othersEq⟩ :=
    List.map_eq_cons_iff.mp lexemesEq
  subst headEq
  rw [List.foldlM_cons, step]
  exact later others othersEq

theorem Runs.append {reader middle result : Reader}
    {first second : List Lexeme} (before : Runs limit reader first middle)
    (after : Runs limit middle second result) :
    Runs limit reader (first ++ second) result := by
  intro positioned lexemesEq
  obtain ⟨front, back, rfl, frontEq, backEq⟩ :=
    List.map_eq_append_iff.mp lexemesEq
  rw [List.foldlM_append, before front frontEq]
  exact after back backEq

/-- A point that a value may begin at. -/
def Point.wantsValue : Point → Bool
  | .value | .valueOrEnd => true
  | _ => false

theorem Point.wantsValue_value : Point.value.wantsValue = true := rfl

theorem Point.wantsValue_valueOrEnd : Point.valueOrEnd.wantsValue = true :=
  rfl

/-- Only the end of an array is no value at such a point. -/
theorem Reader.step_of_wantsValue {point : Point}
    (wants : point.wantsValue = true) (frames : List Frame) {lexeme : Lexeme}
    (noEnd : lexeme ≠ .endArray) (position : Nat) :
    Reader.step limit ⟨point, frames⟩ (position, lexeme) =
      Reader.readValue limit frames position lexeme := by
  cases point with
  | value => simp only [Reader.step]
  | valueOrEnd => simp only [Reader.step]
  | _ => exact absurd wants (by simp [Point.wantsValue])

mutual

/-- The lexemes of a document take the reader from a point that wants a value
to the point behind this value. -/
theorem runs_lexemes {point : Point} (wants : point.wantsValue = true)
    (frames : List Frame) :
    (document : Json) → frames.length + document.depth ≤ limit →
      Runs limit ⟨point, frames⟩ document.lexemes
        (Reader.complete document frames)
  | null, _ => .cons (Reader.step_of_wantsValue wants frames (by decide))
      (.nil _)
  | bool _, _ => .cons (Reader.step_of_wantsValue wants frames (by simp))
      (.nil _)
  | number _, _ => .cons (Reader.step_of_wantsValue wants frames (by simp))
      (.nil _)
  | text _, _ => .cons (Reader.step_of_wantsValue wants frames (by simp))
      (.nil _)
  | array items, enough => by
      rw [depth] at enough
      have opened : ∀ position,
          Reader.step limit ⟨point, frames⟩ (position, .beginArray) =
            .ok ⟨.valueOrEnd, .array [] :: frames⟩ := by
        intro position
        rw [Reader.step_of_wantsValue wants frames (by decide),
          Reader.readValue, if_neg (by omega)]
      cases items with
      | nil => exact .cons opened (.cons (fun _ => rfl) (.nil _))
      | cons item items =>
          rw [itemsDepth] at enough
          have first := runs_lexemes Point.wantsValue_valueOrEnd
            (.array [] :: frames) item
            (by simp only [List.length_cons]; omega)
          have later := runs_laterItems [item] frames items
            (by omega)
          exact .cons opened (first.append later)
  | object members, enough => by
      rw [depth] at enough
      have opened : ∀ position,
          Reader.step limit ⟨point, frames⟩ (position, .beginObject) =
            .ok ⟨.nameOrEnd, frames⟩ := by
        intro position
        rw [Reader.step_of_wantsValue wants frames (by decide),
          Reader.readValue, if_neg (by omega)]
      cases members with
      | nil => exact .cons opened (.cons (fun _ => rfl) (.nil _))
      | cons pair members =>
          obtain ⟨name, member⟩ := pair
          rw [membersDepth] at enough
          have first := runs_lexemes Point.wantsValue_value
            (.object [] name :: frames) member
            (by simp only [List.length_cons]; omega)
          have later := runs_laterMembers [(name, member)]
            frames members (by omega)
          exact .cons opened (.cons (fun _ => rfl) (.cons (fun _ => rfl)
            (first.append later)))

theorem runs_laterItems (done : List Json) (frames : List Frame) :
    (items : List Json) → frames.length + 1 + itemsDepth items ≤ limit →
      Runs limit ⟨.afterItem done, frames⟩ (laterItems items)
        (Reader.complete (.array (done.reverse ++ items)) frames)
  | [], _ => by
      rw [List.append_nil]
      exact .cons (fun _ => rfl) (.nil _)
  | item :: items, enough => by
      rw [itemsDepth] at enough
      have first := runs_lexemes Point.wantsValue_value
        (.array done :: frames) item
        (by simp only [List.length_cons]; omega)
      have later := runs_laterItems (item :: done) frames
        items (by omega)
      rw [List.reverse_cons, List.append_assoc] at later
      exact .cons (fun _ => rfl) (first.append later)

theorem runs_laterMembers (done : List (Text × Json))
    (frames : List Frame) :
    (members : List (Text × Json)) →
      frames.length + 1 + membersDepth members ≤ limit →
      Runs limit ⟨.afterMember done, frames⟩ (laterMembers members)
        (Reader.complete (.object (done.reverse ++ members)) frames)
  | [], _ => by
      rw [List.append_nil]
      exact .cons (fun _ => rfl) (.nil _)
  | (name, member) :: members, enough => by
      rw [membersDepth] at enough
      have first := runs_lexemes Point.wantsValue_value
        (.object done name :: frames) member
        (by simp only [List.length_cons]; omega)
      have later := runs_laterMembers
        ((name, member) :: done) frames members (by omega)
      rw [List.reverse_cons, List.append_assoc] at later
      exact .cons (fun _ => rfl) (.cons (fun _ => rfl)
        (.cons (fun _ => rfl) (first.append later)))

end

end Steps

theorem exists_lex_byteOrderMark (rest : List Char) :
    ∃ later, lex ('\uFEFF' :: rest) = (0, .stray) :: later := by
  have stray : wordOrNumber ('\uFEFF' :: rest) = (.stray, 1) := by
    simp [wordOrNumber, words, numberLexeme?, integralDigits, isDigit]
  rw [lex, lexFrom, firstLexeme_eq_wordOrNumber 0 (by decide), stray]
  exact ⟨_, rfl⟩

theorem SpellsLexemes.head?_ne {lexemes : List Lexeme} {chars : List Char}
    (spelled : SpellsLexemes lexemes chars) (separated : Separated lexemes) :
    chars.head? ≠ some '\uFEFF' := by
  intro head
  obtain ⟨rest, rfl⟩ := List.head?_eq_some_iff.mp head
  obtain ⟨later, cut⟩ := exists_lex_byteOrderMark rest
  have lexemesEq := lexFrom_spelling spelled separated 0
  rw [lex] at cut
  rw [cut, List.map_cons] at lexemesEq
  subst lexemesEq
  generalize '\uFEFF' :: rest = chars at spelled
  cases spelled with
  | cons _ none _ => cases none

section Reading

variable {document : Json} {chars : List Char}

theorem separated_document (document : Json) :
    Separated document.lexemes := by
  have ofDocument := separated_lexemes (show Separated [] from trivial)
    trivial document
  rwa [List.append_nil] at ofDocument

theorem IsSpelledBy.lex_eq (spelled : document.IsSpelledBy chars) :
    (lex chars).map Prod.snd = document.lexemes :=
  lexFrom_spelling spelled (separated_document document) 0

/-- Every spelling of a document that is not nested too deeply is read as
this document. -/
theorem read_of_isSpelledBy {limit : Nat}
    (spelled : document.IsSpelledBy chars)
    (shallow : document.depth ≤ limit) : read limit chars = .ok document := by
  have noMark := SpellsLexemes.head?_ne spelled (separated_document document)
  have taken := runs_lexemes Point.wantsValue_value [] document
    (by simpa using shallow) (lex chars) spelled.lex_eq
  rw [read, if_neg noMark, Reader.start, taken]
  rfl

end Reading

section LineEnds

/-- What spells a lexeme holds no control characters, so it is on one line. -/
theorem SpellsUnit.printable {unit : Nat} {spelling : List Char}
    (spelled : SpellsUnit unit spelling) :
    ∀ char ∈ spelling, 0x20 ≤ char.toNat := by
  have digits : ∀ digit ∈ hexDigits, 0x20 ≤ digit.1.toNat := by decide
  cases spelled with
  | digits firstDigit secondDigit thirdDigit fourthDigit =>
      have first := digits _ firstDigit
      have second := digits _ secondDigit
      have third := digits _ thirdDigit
      have fourth := digits _ fourthDigit
      simp only [List.forall_mem_cons]
      exact ⟨by decide, by decide, first, second, third, fourth, by simp⟩

theorem SpellsChar.printable {char : Char} {spelling : List Char}
    (spelled : SpellsChar char spelling) :
    ∀ other ∈ spelling, 0x20 ≤ other.toNat := by
  have letters : ∀ escape ∈ shortEscapes, 0x20 ≤ escape.1.toNat := by decide
  cases spelled with
  | plain noControl _ _ => simpa using noControl
  | short escape =>
      have letter := letters _ escape
      simp only [List.forall_mem_cons]
      exact ⟨by decide, letter, by simp⟩
  | unit spelled => exact spelled.printable
  | pair _ high low =>
      exact List.forall_mem_append.mpr ⟨high.printable, low.printable⟩

theorem SpellsChars.printable {content spelling : List Char}
    (spelled : SpellsChars content spelling) :
    ∀ char ∈ spelling, 0x20 ≤ char.toNat := by
  induction spelled with
  | nil => simp
  | cons head tail ih =>
      exact List.forall_mem_append.mpr ⟨head.printable, ih⟩

theorem printable_of_isDigit {char : Char} (digit : isDigit char = true) :
    0x20 ≤ char.toNat := by
  simp only [isDigit, Bool.and_eq_true, decide_eq_true_eq] at digit
  have least : '0'.toNat ≤ char.toNat := digit.1
  exact le_trans (by decide) least

/-- A number is made of digits, signs, a point and a letter e. -/
theorem IsNumber.forall_mem {property : Char → Prop} {lexeme : List Char}
    (digits : ∀ char, isDigit char = true → property char)
    (marks : ∀ char ∈ ['-', '+', '.', 'e', 'E'], property char)
    (isNumber : IsNumber lexeme) : ∀ char ∈ lexeme, property char := by
  have ofDigits : ∀ {row : List Char}, IsDigits row →
      ∀ char ∈ row, property char :=
    fun areDigits char member => digits char (areDigits.2 char member)
  obtain ⟨sign, integral, fraction, exponent, signs, isIntegral, isFraction,
    isExponent, rfl⟩ := isNumber
  simp only [List.forall_mem_append]
  refine ⟨⟨⟨?_, ?_⟩, ?_⟩, ?_⟩
  · rcases signs with rfl | rfl
    · simp
    · simpa using marks '-' (by decide)
  · rcases isIntegral with rfl | ⟨areDigits, -⟩
    · simpa using digits '0' (by decide)
    · exact ofDigits areDigits
  · rcases isFraction with rfl | ⟨row, areDigits, rfl⟩
    · simp
    · exact List.forall_mem_cons.mpr
        ⟨marks '.' (by decide), ofDigits areDigits⟩
  · rcases isExponent with
      rfl | ⟨letter, sign, row, either, others, areDigits, rfl⟩
    · simp
    · refine List.forall_mem_cons.mpr ⟨?_,
        List.forall_mem_append.mpr ⟨?_, ofDigits areDigits⟩⟩
      · rcases either with rfl | rfl
        · exact marks 'e' (by decide)
        · exact marks 'E' (by decide)
      · rcases others with rfl | rfl | rfl
        · simp
        · simpa using marks '+' (by decide)
        · simpa using marks '-' (by decide)

theorem IsNumber.printable {lexeme : List Char}
    (isNumber : IsNumber lexeme) : ∀ char ∈ lexeme, 0x20 ≤ char.toNat :=
  isNumber.forall_mem (fun _ => printable_of_isDigit)
    (forall_mem_of_all (by decide))

theorem SpellsLexeme.printable {lexeme : Lexeme} {spelling : List Char}
    (spelled : SpellsLexeme lexeme spelling) :
    ∀ char ∈ spelling, 0x20 ≤ char.toNat := by
  cases spelled with
  | number isNumber => exact isNumber.printable
  | text spelled =>
      refine List.forall_mem_cons.mpr ⟨by decide,
        List.forall_mem_append.mpr ⟨spelled.printable, by simp⟩⟩
  | _ => simp

/-- Characters without control characters are on one line. -/
theorem unifyNewlines_append {chars : List Char}
    (printable : ∀ char ∈ chars, 0x20 ≤ char.toNat) (rest : List Char) :
    unifyNewlines (chars ++ rest) = chars ++ unifyNewlines rest := by
  induction chars with
  | nil => rfl
  | cons char chars ih =>
      obtain ⟨first, others⟩ := List.forall_mem_cons.mp printable
      have noReturn : char ≠ '\r' := by
        rintro rfl
        exact absurd first (by decide)
      rw [List.cons_append, unifyNewlines, ih others, List.cons_append]
      · exact fun _ equal => absurd equal noReturn
      · exact noReturn

/-- White space stays white space, if no line feed is behind it that a
carriage return could take up. -/
theorem unifyNewlines_space {space rest : List Char} (blank : IsSpace space)
    (noFeed : rest.head? ≠ some '\n') :
    ∃ unified, IsSpace unified ∧
      unifyNewlines (space ++ rest) = unified ++ unifyNewlines rest := by
  fun_induction unifyNewlines space with
  | case1 => exact ⟨[], blank, rfl⟩
  | case2 space ih =>
      obtain ⟨unified, unifiedBlank, equal⟩ := ih fun char member =>
        blank char (by simp [member])
      refine ⟨'\n' :: unified,
        List.forall_mem_cons.mpr ⟨by decide, unifiedBlank⟩, ?_⟩
      rw [List.cons_append, List.cons_append, unifyNewlines, equal,
        List.cons_append]
  | case3 space noPair ih =>
      obtain ⟨unified, unifiedBlank, equal⟩ := ih fun char member =>
        blank char (by simp [member])
      refine ⟨'\n' :: unified,
        List.forall_mem_cons.mpr ⟨by decide, unifiedBlank⟩, ?_⟩
      rw [List.cons_append, unifyNewlines, equal, List.cons_append]
      intro later begins
      cases space with
      | nil => exact noFeed (by rw [List.nil_append] at begins; simp [begins])
      | cons char space =>
          rw [List.cons_append, List.cons.injEq] at begins
          exact noPair space (by rw [begins.1])
  | case4 char space noPair noReturn ih =>
      obtain ⟨first, others⟩ := List.forall_mem_cons.mp blank
      obtain ⟨unified, unifiedBlank, equal⟩ := ih others
      refine ⟨char :: unified,
        List.forall_mem_cons.mpr ⟨first, unifiedBlank⟩, ?_⟩
      rw [List.cons_append, unifyNewlines, equal, List.cons_append]
      · exact fun _ equal => absurd equal noReturn
      · exact noReturn

/-- Lexemes are spelled as well when all line ends are unified. -/
theorem SpellsLexemes.unifyNewlines {lexemes : List Lexeme}
    {chars : List Char} (spelled : SpellsLexemes lexemes chars) :
    SpellsLexemes lexemes (unifyNewlines chars) := by
  induction spelled with
  | @nil space blank =>
      obtain ⟨unified, unifiedBlank, equal⟩ :=
        unifyNewlines_space blank (show [].head? ≠ some '\n' by simp)
      rw [List.append_nil, VestingContract.unifyNewlines,
        List.append_nil] at equal
      rw [equal]
      exact .nil unifiedBlank
  | @cons lexeme lexemes space spelling rest blank head tail ih =>
      have noFeed : (spelling ++ rest).head? ≠ some '\n' := by
        obtain ⟨char, others, rfl, -⟩ := firstLexeme_spelling head
          (fun _ => show EndsNumber [] from by simp [EndsNumber]) 0
        intro begins
        obtain rfl : char = '\n' := by simpa using begins
        exact absurd (head.printable '\n' (by simp)) (by decide)
      obtain ⟨unified, unifiedBlank, equal⟩ :=
        unifyNewlines_space blank noFeed
      rw [equal, unifyNewlines_append head.printable]
      exact .cons unifiedBlank head ih

end LineEnds

end VestingContract.Json
