import VestingContract.Proofs.Dataset.Contents
import VestingContract.Proofs.Run.Rendering

/-!
# Datasets in files and in memory

A document whose numbers are integers can be loaded from a file, where numbers
keep their texts, or be decoded to integers in memory.  Both ways it is a
dataset or none, and the contract is the same.
-/

namespace VestingContract

/-- Integers of documents are decoded to the integers that they are read
as. -/
def Json.ReadsWholes (ofNumber : List Char → Value) : Prop :=
  ∀ lexeme whole, IsWhole lexeme →
    readWhole 10 (Text.ofChars lexeme) = .ok whole →
    ofNumber lexeme = .int whole

section Agreement

variable {document : Json} {ofNumber : List Char → Value}

theorem Json.ReadsWholes.keepsNumbers (reads : ReadsWholes ofNumber)
    (wholes : ∀ lexeme ∈ document.numbers, IsWhole lexeme) :
    document.KeepsNumbers ofNumber := by
  intro lexeme isNumber
  have isWhole := wholes lexeme isNumber
  obtain ⟨whole, read, spelled⟩ := isWhole.spellWhole_readWhole
  exact .inr ⟨whole, spelled, reads lexeme whole isWhole read⟩

/-- What loading a file and validating a value end with: faults of a dataset
both, or two datasets with the same contract for every template. -/
inductive Dataset.Agree : Except Failure Dataset →
    Except DatasetFault Dataset → Prop
  | refused (source : Text) (fault : DocumentFault) (other : DatasetFault) :
      Agree (.error (.dataset source fault)) (.error other)
  | rendered {dataset other : Dataset}
      (same : ∀ template, ∃ text, renderContract template dataset = .ok text ∧
        renderContract template other = .ok text) :
      Agree (.ok dataset) (.ok other)

theorem Dataset.agree_ofValue (keeps : document.KeepsNumbers ofNumber)
    (source : Text) :
    Agree (((Dataset.ofValue (document.toValue numberLiteral)).mapError
        fun fault => ContentFault.document (.invalid fault)).mapError
          (Failure.ofContent source))
      (Dataset.ofValue (document.toValue ofNumber)) := by
  have fromFile := yields_ofValue (Json.keepsNumbers_numberLiteral document)
  have inMemory := yields_ofValue keeps
  rcases fromFile.cases with
    ⟨fault, refused, noContents⟩ | ⟨dataset, categories, valid, given, spelled⟩
  · rw [noContents] at inMemory
    rw [refused]
    generalize Dataset.ofValue (document.toValue ofNumber) = result
      at inMemory ⊢
    cases inMemory with
    | none other => exact .refused source (.invalid fault) other
  · rw [given] at inMemory
    rw [valid]
    generalize Dataset.ofValue (document.toValue ofNumber) = result
      at inMemory ⊢
    cases inMemory with
    | some alike =>
        exact .rendered fun template =>
          ⟨template.contractText categories,
            renderContract_of_isSpelled template spelled,
            renderContract_of_isSpelled template alike⟩

/-- A document of integers is read from each of its spellings, and loading it
from a file agrees with validating it in memory. -/
theorem Dataset.load_agrees_with_memory {path : PathName} {world : World}
    {place : List Text} {identity : Nat} {chars : List Char}
    (spelled : document.IsSpelledBy chars)
    (shallow : document.depth ≤ 400)
    (wholes : ∀ lexeme ∈ document.numbers, Json.IsWhole lexeme)
    (reads : Json.ReadsWholes ofNumber)
    (valid : PathName.check path.toText = .ok ())
    (found : world.files.find path =
      .ok (.present place (.file identity (Utf8.encodeChars chars))))
    (apart : ¬ world.logging.WritesTo identity) :
    (∀ limit, 400 ≤ limit → Json.read limit chars = .ok document) ∧
      Agree ((Dataset.load path).run world).1
        (Dataset.ofValue (document.toValue ofNumber)) := by
  constructor
  · intro limit atLeast
    exact Json.read_of_isSpelledBy spelled (le_trans shallow atLeast)
  · rw [run_load_fst found valid apart,
      ofBytes_encodeChars spelled (le_trans shallow (by decide))]
    exact agree_ofValue (reads.keepsNumbers wholes) path.toText

/-- Numbers as the integers that they are read as. -/
def wholeNumber (lexeme : List Char) : Value :=
  match readWhole 10 (Text.ofChars lexeme) with
  | .ok whole => .int whole
  | .error _ => .null

theorem readsWholes_wholeNumber : Json.ReadsWholes wholeNumber := by
  intro lexeme whole _ read
  rw [wholeNumber, read]

theorem isWhole_minusTwelve : Json.IsWhole ['-', '1', '2'] := by
  have digits : Json.IsDigits ['1', '2'] :=
    ⟨by decide, Json.forall_mem_of_all (by decide)⟩
  exact ⟨['-'], ['1', '2'], .inr rfl, .inr ⟨digits, by decide⟩, by decide,
    rfl, by decide⟩

/-- A negative number is a text in the dataset of a file and an integer in
memory, and the contracts of both datasets are the same. -/
theorem Dataset.load_minusTwelve : ∃ text,
    ((Dataset.load singlePath).run (singleFile (Utf8.encodeChars
        (constantDocument ['-', '1', '2']).compact))).1 =
      .ok (constantDataset (.number "-12")) ∧
    Dataset.ofValue
        ((constantDocument ['-', '1', '2']).toValue wholeNumber) =
      .ok (constantDataset (.int (-12))) ∧
    renderContract .standard (constantDataset (.number "-12")) = .ok text ∧
    renderContract .standard (constantDataset (.int (-12))) = .ok text := by
  have isNumber := isWhole_minusTwelve.isNumber
  have spelled := isSpelledBy_constantDocument isNumber
  have fromFile : ((Dataset.load singlePath).run (singleFile
      (Utf8.encodeChars (constantDocument ['-', '1', '2']).compact))).1 =
        .ok (constantDataset (.number "-12")) := by
    rw [run_load_fst (find_singleFile _) check_singlePath
      (not_writesTo_singleFile _), ofBytes_encodeChars spelled (by decide)]
    rfl
  have inMemory : Dataset.ofValue
      ((constantDocument ['-', '1', '2']).toValue wholeNumber) =
        .ok (constantDataset (.int (-12))) := rfl
  obtain ⟨-, agree⟩ := load_agrees_with_memory spelled (by decide)
    (by simp [constantDocument, Entry.fieldNames, Json.numbers,
      Json.itemsNumbers, Json.membersNumbers, isWhole_minusTwelve])
    readsWholes_wholeNumber check_singlePath (find_singleFile _)
    (not_writesTo_singleFile _)
  rw [fromFile, inMemory] at agree
  cases agree with
  | rendered same =>
      obtain ⟨text, rendered, alike⟩ := same .standard
      exact ⟨text, fromFile, inMemory, rendered, alike⟩

end Agreement

end VestingContract
