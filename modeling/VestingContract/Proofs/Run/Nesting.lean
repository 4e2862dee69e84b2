import VestingContract.Proofs.Json.Nesting
import VestingContract.Proofs.Run.Load

/-!
# Files of deeply nested documents

Whatever the bytes of a file are, loading it ends with a dataset, with a fault
of the dataset, or with the exhaustion of the reader.  The reader is exhausted
only by a text that begins like a document in which many containers enclose
each other, and by every one in which too many do, whether a document or not.
-/

namespace VestingContract.Dataset

/-- Bytes of a text that begins like a document in which more than a number of
containers enclose each other. -/
def NestedBeyond (limit : Nat) (bytes : List UInt8) : Prop :=
  ∃ chars, Utf8.decode bytes = .ok chars ∧
    Json.BeginDeep limit ((Json.lex (unifyNewlines chars)).map Prod.snd)

section Reading

theorem NestedBeyond.mono {limit other : Nat} {bytes : List UInt8}
    (deep : NestedBeyond limit bytes) (atMost : other ≤ limit) :
    NestedBeyond other bytes := by
  obtain ⟨chars, decoded, begins⟩ := deep
  exact ⟨chars, decoded, begins.mono atMost⟩

/-- Every spelling of a document that is nested too deeply is. -/
theorem NestedBeyond.of_isSpelledBy {limit : Nat} {document : Json}
    {chars : List Char} (spelled : document.IsSpelledBy chars)
    (deep : limit < document.depth) :
    NestedBeyond limit (Utf8.encodeChars chars) := by
  have unified : document.IsSpelledBy (unifyNewlines chars) :=
    Json.SpellsLexemes.unifyNewlines spelled
  refine ⟨chars, Utf8.decode_encodeChars chars, ?_⟩
  rw [unified.lex_eq]
  exact Json.beginDeep_lexemes deep

theorem ofDocument_tooDeep_iff {document : List Char} :
    (∃ container, ofDocument document = .error (.tooDeep container)) ↔
      Json.BeginDeep nestingLimit ((Json.lex document).map Prod.snd) := by
  rw [← Json.read_tooDeep_iff]
  rcases ofDocument_cases document with
    ⟨blank, refused⟩ | ⟨fault, read, refused⟩ | ⟨json, read, holds⟩
  · rw [refused]
    constructor
    · rintro ⟨container, gaveUp⟩
      cases gaveUp
    · intro gaveUp
      have notBlank : (Text.ofChars document).isBlank = false := by
        rcases (Json.read_tooDeep_iff.mp gaveUp).bracket_mem with
          isMember | isMember <;>
          exact isBlank_eq_false_of_mem isMember (by decide)
      rw [notBlank] at blank
      cases blank
  · rw [refused, read]
    cases fault <;> simp [ContentFault.ofJson]
  · rw [holds, read]
    cases Dataset.ofValue (json.toValue numberLiteral) <;>
      simp [Except.mapError]

/-- The reader is exhausted just by bytes that are nested beyond its limit. -/
theorem ofBytes_tooDeep_iff {bytes : List UInt8} :
    (∃ container, ofBytes bytes = .error (.tooDeep container)) ↔
      NestedBeyond nestingLimit bytes := by
  rw [ofBytes, NestedBeyond]
  cases Utf8.decode bytes with
  | error fault => simp
  | ok chars => simp [ofDocument_tooDeep_iff]

end Reading

section Loading

/-- How loading the bytes of a file ends: with a dataset or with a fault of
the dataset, unless its reader is exhausted.  This takes more than 400
containers that enclose each other, and more than 4000 always do it. -/
structure LoadEnds (source : Text) (bytes : List UInt8)
    (result : Except Failure Dataset) : Prop where
  ends : (∃ dataset, result = .ok dataset) ∨
    (∃ fault, result = .error (.dataset source fault)) ∨
    ∃ container, result = .error (.tooDeep container)
  nested : ∀ container, result = .error (.tooDeep container) →
    NestedBeyond 400 bytes
  exhausts : NestedBeyond 4000 bytes →
    ∃ container, result = .error (.tooDeep container)

variable {path : PathName} {world : World}

theorem loadContent_tooDeep_iff {content : List UInt8} :
    (∃ container, ((loadContent path content).run world).1 =
      .error (.tooDeep container)) ↔ NestedBeyond nestingLimit content := by
  rw [run_loadContent_fst, ← ofBytes_tooDeep_iff]
  rcases ofBytes content with (fault | container) | dataset <;>
    simp [Except.mapError, Failure.ofContent]

theorem loadEnds_loadContent (content : List UInt8) :
    LoadEnds path.toText content
      ((loadContent path content).run world).1 where
  ends := by
    rw [run_loadContent_fst]
    rcases ofBytes content with (fault | container) | dataset
    · exact .inr (.inl ⟨fault, rfl⟩)
    · exact .inr (.inr ⟨container, rfl⟩)
    · exact .inl ⟨dataset, rfl⟩
  nested container gaveUp :=
    (loadContent_tooDeep_iff.mp ⟨container, gaveUp⟩).mono (by decide)
  exhausts deep := loadContent_tooDeep_iff.mpr (deep.mono (by decide))

/-- A path that leads to a file is loaded from the bytes of this file, behind
which records may have been added. -/
theorem load_ends {place : List Text} {identity : Nat}
    {content : List UInt8} (valid : PathName.check path.toText = .ok ())
    (found : world.files.find path =
      .ok (.present place (.file identity content))) :
    ∃ added, (¬ world.logging.WritesTo identity → added = []) ∧
      LoadEnds path.toText (content ++ added)
        ((Dataset.load path).run world).1 := by
  obtain ⟨added, foundLater, isNone⟩ :=
    (onlyRecords_announced path world).find found
  refine ⟨added, isNone, ?_⟩
  rw [run_load valid found foundLater]
  exact loadEnds_loadContent (content ++ added)

end Loading

section Deep

/-- An array that encloses as many others. -/
def nestedArrays : Nat → Json
  | 0 => .array []
  | depth + 1 => .array [nestedArrays depth]

theorem depth_nestedArrays (depth : Nat) :
    (nestedArrays depth).depth = depth + 1 := by
  induction depth with
  | zero => rfl
  | succ depth ih =>
      rw [nestedArrays, Json.depth, Json.itemsDepth, Json.itemsDepth, ih]
      omega

/-- Opening brackets and as many closing ones. -/
def brackets (depth : Nat) : List Char :=
  List.replicate depth '[' ++ List.replicate depth ']'

theorem brackets_succ (depth : Nat) (rest : List Char) :
    brackets (depth + 1) ++ rest =
      ['['] ++ (brackets depth ++ ([']'] ++ rest)) := by
  rw [brackets, List.replicate_succ, List.replicate_succ', brackets]
  simp only [List.append_assoc, List.cons_append, List.nil_append]

theorem spellsLexemes_brackets (depth : Nat) {lexemes : List Json.Lexeme}
    {rest : List Char} (spelled : Json.SpellsLexemes lexemes rest) :
    Json.SpellsLexemes ((nestedArrays depth).lexemes ++ lexemes)
      (brackets (depth + 1) ++ rest) := by
  induction depth generalizing lexemes rest with
  | zero =>
      rw [brackets_succ]
      have closing := Json.SpellsLexemes.next .endArray spelled
      exact .next .beginArray closing
  | succ depth ih =>
      have inner := ih (.next .endArray spelled)
      rw [brackets_succ, nestedArrays, Json.lexemes, Json.laterItems,
        List.cons_append, List.append_assoc, List.singleton_append]
      exact .next .beginArray inner

theorem brackets_spell (depth : Nat) :
    (nestedArrays depth).IsSpelledBy (brackets (depth + 1)) := by
  have none : Json.IsSpace [] := by simp [Json.IsSpace]
  have whole := spellsLexemes_brackets depth (.nil none)
  rwa [List.append_nil, List.append_nil] at whole

/-- A world with nested arrays in a file. -/
def deepWorld (depth : Nat) : World where
  files := ⟨[([("data.json" : Text)],
    .file 0 (Utf8.encodeChars (brackets (depth + 1))))], [], 1⟩
  logging := .initial
  output := []
  errors := []
  uses := []
  clock := .null
  terminal := false
  shipped := ⟨1, []⟩

theorem find_deepWorld (depth : Nat) :
    (deepWorld depth).files.find ⟨0, ["data.json"]⟩ =
      .ok (.present [("data.json" : Text)]
        (.file 0 (Utf8.encodeChars (brackets (depth + 1))))) := by
  rw [FileTree.find, if_neg (by decide), FileTree.walk]
  rfl

theorem not_writesTo_deepWorld (depth : Nat) :
    ¬ (deepWorld depth).logging.WritesTo 0 := by
  rintro ⟨style, attached⟩
  exact absurd attached List.not_mem_nil

theorem nestedBeyond_brackets {limit depth : Nat} (less : limit ≤ depth) :
    NestedBeyond limit (Utf8.encodeChars (brackets (depth + 1))) :=
  .of_isSpelledBy (brackets_spell depth) (by
    rw [depth_nestedArrays]
    omega)

/-- Five thousand arrays exhaust the reader. -/
theorem load_deepWorld :
    ∃ container, ((Dataset.load ⟨0, ["data.json"]⟩).run
      (deepWorld 4999)).1 = .error (.tooDeep container) := by
  obtain ⟨added, isNone, ends⟩ := load_ends (by decide) (find_deepWorld 4999)
  rw [isNone (not_writesTo_deepWorld 4999), List.append_nil] at ends
  exact ends.exhausts (nestedBeyond_brackets (by decide))

/-- Not every file that is there is loaded or refused as a dataset. -/
theorem load_escapes :
    ¬ ∀ (path : PathName) (world : World) (place : List Text)
      (identity : Nat) (content : List UInt8),
      PathName.check path.toText = .ok () →
      world.files.find path =
        .ok (.present place (.file identity content)) →
      (∃ dataset, ((Dataset.load path).run world).1 = .ok dataset) ∨
        ∃ fault, ((Dataset.load path).run world).1 =
          .error (.dataset path.toText fault) := by
  intro claim
  have found := find_deepWorld 4999
  obtain ⟨added, foundLater, isNone⟩ :=
    (onlyRecords_announced ⟨0, ["data.json"]⟩ (deepWorld 4999)).find found
  rw [isNone (not_writesTo_deepWorld 4999), List.append_nil] at foundLater
  have valid : PathName.check
    (PathName.toText ⟨0, ["data.json"]⟩) = .ok () := by decide
  have outcome := claim _ _ _ _ _ valid found
  rw [run_load valid found foundLater] at outcome
  obtain ⟨container, gaveUp⟩ := loadContent_tooDeep_iff.mpr
    (nestedBeyond_brackets (show nestingLimit ≤ 4999 by decide))
  rw [gaveUp] at outcome
  rcases outcome with ⟨_, isOk⟩ | ⟨_, isFault⟩
  · cases isOk
  · cases isFault

end Deep

end VestingContract.Dataset
