import VestingContract.Proofs.Json.Constants
import VestingContract.Proofs.Run.Load

/-!
# Faults that name their file

A fault of the dataset in a file tells the path of the file, with one
exception: a number that is not finite is refused inside the reader, which
knows the name of the number only.  This happens only to texts that come to
such a number where a value may stand, and to each of these in which no more
than 400 containers enclose each other before it.
-/

namespace VestingContract

/-- Only the refusal of a number that is not finite leaves out the source. -/
theorem DocumentFault.infix_message {fault : DocumentFault}
    (finite : ∀ name, fault ≠ .nonFinite name) (source : Text) :
    source <:+: fault.message source := by
  cases fault with
  | undecodable => exact List.suffix_append _ source |>.isInfix
  | blank => exact List.suffix_append _ source |>.isInfix
  | malformed reason place =>
      refine ⟨"Invalid JSON in ",
        ": " ++ reason.message ++ ": " ++ place, ?_⟩
      simp only [message, List.append_assoc]
  | nonFinite name => exact absurd rfl (finite name)
  | invalid fault =>
      rw [message, List.append_assoc]
      exact List.prefix_append source _ |>.isInfix
  | reported content =>
      rw [message, List.append_assoc]
      exact List.prefix_append source _ |>.isInfix

namespace Dataset

/-- Bytes of a text that comes to the name of a number that is not finite
where a value may stand. -/
def MeetsConstant (limit : Nat) (name : Text) (bytes : List UInt8) : Prop :=
  ∃ chars, Utf8.decode bytes = .ok chars ∧
    Json.MeetConstant limit name
      ((Json.lex (unifyNewlines chars)).map Prod.snd)

section Reading

variable {name : Text}

theorem MeetsConstant.mono {limit other : Nat} {bytes : List UInt8}
    (meets : MeetsConstant limit name bytes) (atMost : limit ≤ other) :
    MeetsConstant other name bytes := by
  obtain ⟨chars, decoded, met⟩ := meets
  exact ⟨chars, decoded, met.mono atMost⟩

theorem ofDocument_nonFinite_iff {document : List Char} :
    ofDocument document = .error (.document (.nonFinite name)) ↔
      Json.MeetConstant nestingLimit name
        ((Json.lex document).map Prod.snd) := by
  rw [← Json.read_nonFinite_iff]
  rcases ofDocument_cases document with
    ⟨blank, refused⟩ | ⟨fault, read, refused⟩ | ⟨json, read, holds⟩
  · rw [refused]
    constructor
    · intro isNonFinite
      cases isNonFinite
    · intro isNonFinite
      have visible : ∀ word ∈ Json.words,
          ∃ char ∈ word.1, (CodePoint.scalar char).isBlank = false := by
        have some : (Json.words.all fun word => word.1.any fun char =>
            !(CodePoint.scalar char).isBlank) = true := by decide
        simpa only [List.all_eq_true, List.any_eq_true, Bool.not_eq_true']
          using some
      obtain ⟨word, isWord, inside⟩ :=
        (Json.read_nonFinite_iff.mp isNonFinite).exists_word
      obtain ⟨char, isMember, noBlank⟩ := visible _ isWord
      rw [isBlank_eq_false_of_mem (inside.subset isMember) noBlank] at blank
      cases blank
  · rw [refused, read]
    cases fault <;> simp [ContentFault.ofJson]
  · rw [holds, read]
    cases Dataset.ofValue (json.toValue numberLiteral) <;>
      simp [Except.mapError]

theorem ofBytes_nonFinite_iff {bytes : List UInt8} :
    ofBytes bytes = .error (.document (.nonFinite name)) ↔
      MeetsConstant nestingLimit name bytes := by
  rw [ofBytes, MeetsConstant]
  cases Utf8.decode bytes with
  | error fault => simp
  | ok chars => simp [ofDocument_nonFinite_iff]

theorem MeetsConstant.name_mem {limit : Nat} {bytes : List UInt8}
    (meets : MeetsConstant limit name bytes) :
    name ∈ [("NaN" : Text), "Infinity", "-Infinity"] := by
  have names : ∀ word ∈ Json.words, ∀ other, word.2 = .nonFinite other →
      other ∈ [("NaN" : Text), "Infinity", "-Infinity"] := by
    simp [Json.words]
  obtain ⟨chars, -, met⟩ := meets
  obtain ⟨word, isWord, -⟩ := met.exists_word
  exact names _ isWord name rfl

end Reading

section Loading

/-- What a file is refused for as a dataset is told with the path of the file,
but for a number that is not finite. -/
structure NamesFile (path : Text) (bytes : List UInt8)
    (result : Except Failure Dataset) : Prop where
  named : ∀ source fault, result = .error (.dataset source fault) →
    (∀ name, fault ≠ .nonFinite name) →
    path <:+: (Failure.dataset source fault).message
  unnamed : ∀ source name, result = .error (.dataset source (.nonFinite name)) →
    MeetsConstant 4000 name bytes ∧
      name ∈ [("NaN" : Text), "Infinity", "-Infinity"] ∧
      (Failure.dataset source (.nonFinite name)).message =
        "non-finite number " ++ name ++ " is not allowed"
  refuses : ∀ name, MeetsConstant 400 name bytes →
    result = .error (.dataset path (.nonFinite name))

theorem namesFile_ofBytes (path : Text) (bytes : List UInt8) :
    NamesFile path bytes
      ((ofBytes bytes).mapError (Failure.ofContent path)) where
  named source fault refused finite := by
    rcases holds : ofBytes bytes with (found | container) | dataset
    · rw [holds] at refused
      cases refused
      exact fault.infix_message finite path
    · rw [holds] at refused
      cases refused
    · rw [holds] at refused
      cases refused
  unnamed source name refused := by
    have meets : MeetsConstant nestingLimit name bytes := by
      rw [← ofBytes_nonFinite_iff]
      rcases holds : ofBytes bytes with (found | container) | dataset
      all_goals
        rw [holds] at refused
        cases refused
      rfl
    exact ⟨meets.mono (by decide), meets.name_mem, rfl⟩
  refuses name meets := by
    rw [ofBytes_nonFinite_iff.mpr (meets.mono (by decide))]
    rfl

/-- However a file is refused as a dataset, the refusal names the file, unless
the text comes to a number that is not finite. -/
theorem load_names_file {path : PathName} {world : World}
    {place : List Text} {identity : Nat} {content : List UInt8}
    (valid : PathName.check path.toText = .ok ())
    (found : world.files.find path =
      .ok (.present place (.file identity content))) :
    ∃ added, (¬ world.logging.WritesTo identity → added = []) ∧
      NamesFile path.toText (content ++ added)
        ((Dataset.load path).run world).1 := by
  obtain ⟨added, foundLater, isNone⟩ :=
    (onlyRecords_announced path world).find found
  refine ⟨added, isNone, ?_⟩
  rw [run_load valid found foundLater, run_loadContent_fst]
  exact namesFile_ofBytes path.toText (content ++ added)

end Loading

section Unnamed

/-- A category with a number that is not finite in the place of an entry. -/
def constantChars : List Char :=
  "\x7b\"A\":[NaN]\x7d".toList

theorem meetsConstant_constantChars :
    MeetsConstant 400 "NaN" (Utf8.encodeChars constantChars) := by
  refine ⟨constantChars, Utf8.decode_encodeChars _,
    [.beginObject, .text "A", .colon, .beginArray], [.endArray, .endObject],
    by decide +kernel, ⟨.object [("A", .array [.null])], ?_⟩, ?_⟩
  · exact ⟨[.endArray, .endObject], rfl⟩
  · intro deep
    have long := deep.lt_length
    simp at long

/-- The refusal of the category does not name the file. -/
theorem load_constantChars : ∃ source fault,
    ((Dataset.load singlePath).run
        (singleFile (Utf8.encodeChars constantChars))).1 =
      .error (.dataset source fault) ∧
    (Failure.dataset source fault).message =
      "non-finite number NaN is not allowed" ∧
    ¬ singlePath.toText <:+: (Failure.dataset source fault).message := by
  obtain ⟨added, isNone, names⟩ :=
    load_names_file check_singlePath (find_singleFile _)
  rw [isNone (not_writesTo_singleFile _), List.append_nil] at names
  have refused := names.refuses _ meetsConstant_constantChars
  exact ⟨_, _, refused, rfl, by decide⟩

/-- Not every refusal of a file names the file. -/
theorem load_leaves_out_file :
    ¬ ∀ (path : PathName) (world : World) (place : List Text)
      (identity : Nat) (content : List UInt8) (source : Text)
      (fault : DocumentFault),
      PathName.check path.toText = .ok () →
      world.files.find path =
        .ok (.present place (.file identity content)) →
      ((Dataset.load path).run world).1 = .error (.dataset source fault) →
      path.toText <:+: (Failure.dataset source fault).message := by
  intro claim
  have refused := run_load_fst (find_singleFile _) check_singlePath
    (not_writesTo_singleFile (Utf8.encodeChars constantChars))
  rw [ofBytes_nonFinite_iff.mpr
    (meetsConstant_constantChars.mono (by decide))] at refused
  have named := claim singlePath _ _ _ _ _ _ check_singlePath
    (find_singleFile _) refused
  exact absurd named (by decide)

end Unnamed

end Dataset

end VestingContract
