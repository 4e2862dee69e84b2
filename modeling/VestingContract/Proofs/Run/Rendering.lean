import VestingContract.Contract.Literal
import VestingContract.Proofs.Contract.Capacity
import VestingContract.Proofs.Json.Compact
import VestingContract.Proofs.Run.Load

/-!
# Rendering valid datasets

Whatever the validation accepts as a token has a literal, so the contract of a
valid dataset is complete and is refused only for an integer of too many
digits.  The numbers of a file keep the text that they are written with, so
every dataset that is loaded from a file has a contract.
-/

namespace VestingContract

/-- Some field of an entry is an integer of too many digits. -/
def Dataset.HoldsOverlong (dataset : Dataset) : Prop :=
  ∃ category ∈ dataset, ∃ entry ∈ category.2, ∃ token ∈ entry.tokens,
    token.IsOverlong

section Literals

theorem Dataset.not_isSpellable_iff {dataset : Dataset} :
    ¬ dataset.IsSpellable ↔ dataset.HoldsOverlong := by
  simp only [IsSpellable, Entry.IsSpellable, HoldsOverlong, not_forall,
    Token.not_isSpellable_iff, exists_prop]

theorem Dataset.isSpellable_of_not_holdsOverlong {dataset : Dataset}
    (none : ¬ dataset.HoldsOverlong) : dataset.IsSpellable :=
  not_not.mp (mt not_isSpellable_iff.mp none)

/-- The literal of a token is its spelling. -/
theorem Value.spell_ofToken (token : Token) :
    (ofToken token).spell = token.spell.mapError .unspellable := by
  rw [spell, token?_ofToken]

theorem Value.spell_ofToken_ne_unsupported (token : Token) (kind : Text) :
    (ofToken token).spell ≠ .error (.unsupported kind) := by
  rw [spell_ofToken]
  cases token.spell <;> simp [Except.mapError]

end Literals

section Rendering

/-- The contract of a dataset is a text, unless it holds an integer of too
many digits, which is the fault then.  Its literals are the spellings of the
tokens, and the contract is not refused for one of an unknown kind or for a
statement that is missing. -/
structure Dataset.RendersUnlessOverlong (dataset : Dataset)
    (generator : Generator) : Prop where
  text : ¬ dataset.HoldsOverlong →
    ∃ text, (generator.generate [] dataset).outcome = .ok text
  fault : dataset.HoldsOverlong →
    (generator.generate [] dataset).outcome = .error (.unspellable ⟨⟩)
  literals : ∀ category ∈ dataset, ∀ entry ∈ category.2,
    ∀ token ∈ entry.tokens,
      (Value.ofToken token).spell = token.spell.mapError .unspellable
  supported : ∀ category ∈ dataset, ∀ entry ∈ category.2,
    ∀ token ∈ entry.tokens, ∀ kind,
      (Value.ofToken token).spell ≠ .error (.unsupported kind)
  complete : ∀ declared emitted,
    (generator.generate [] dataset).outcome ≠
      .error (.unfilled declared emitted)

theorem Dataset.droppedEntries_nil (dataset : Dataset) :
    dataset.droppedEntries [] = 0 := by
  simp [droppedEntries, total]

theorem Generator.exists_outcome_of_isSpellable (generator : Generator)
    {dataset : Dataset} (spellable : dataset.IsSpellable) :
    ∃ text, (generator.generate [] dataset).outcome = .ok text := by
  rw [← dataset.emptied_nil] at spellable
  rcases generator.outcome_generate_of_isSpellable spellable with
    ⟨text, rendered, -⟩ | ⟨-, some⟩
  · exact ⟨text, rendered⟩
  · rw [dataset.droppedEntries_nil] at some
    exact absurd some (lt_irrefl 0)

theorem Generator.outcome_of_holdsOverlong (generator : Generator)
    {dataset : Dataset} (holds : dataset.HoldsOverlong) :
    (generator.generate [] dataset).outcome = .error (.unspellable ⟨⟩) := by
  have unspellable := Dataset.not_isSpellable_iff.mpr holds
  rw [← dataset.emptied_nil] at unspellable
  exact generator.outcome_generate_of_not_isSpellable unspellable

theorem Dataset.rendersUnlessOverlong (dataset : Dataset)
    (generator : Generator) : dataset.RendersUnlessOverlong generator where
  text none := generator.exists_outcome_of_isSpellable
    (isSpellable_of_not_holdsOverlong none)
  fault := generator.outcome_of_holdsOverlong
  literals _ _ _ _ token _ := Value.spell_ofToken token
  supported _ _ _ _ token _ := Value.spell_ofToken_ne_unsupported token
  complete declared emitted refused := by
    by_cases holds : dataset.HoldsOverlong
    · rw [generator.outcome_of_holdsOverlong holds] at refused
      cases refused
    · obtain ⟨text, rendered⟩ := generator.exists_outcome_of_isSpellable
        (isSpellable_of_not_holdsOverlong holds)
      rw [rendered] at refused
      cases refused

/-- Every generator renders the datasets that the validation accepts, but for
integers of too many digits.  In a file there are none of these, however long
its numbers are. -/
theorem Generator.generate_of_validated (generator : Generator) :
    (∀ value dataset, Dataset.ofValue value = .ok dataset →
      dataset.RendersUnlessOverlong generator) ∧
    ∀ path world after dataset,
      (Dataset.load path).run world = (.ok dataset, after) →
      ∃ text, (generator.generate [] dataset).outcome = .ok text := by
  refine ⟨fun _ dataset _ => dataset.rendersUnlessOverlong generator, ?_⟩
  intro path world after dataset loaded
  exact Dataset.renderContract_of_load loaded generator.template

end Rendering

section Overlong

open Json

/-- One entry that has a token in all of its fields. -/
def constantDataset (token : Token) : Dataset :=
  [("A", [⟨token, token, token, token, token⟩])]

/-- A document with one entry that has a number in all of its fields. -/
def constantDocument (lexeme : List Char) : Json :=
  .object [("A", .array [.object
    (Entry.fieldNames.map fun name => (name, .number lexeme))])]

theorem isSpelledBy_constantDocument {lexeme : List Char}
    (isNumber : IsNumber lexeme) :
    (constantDocument lexeme).IsSpelledBy (constantDocument lexeme).compact :=
  isSpelledBy_compact (by
    simp only [constantDocument, Entry.fieldNames, List.map_cons,
      List.map_nil, lexemes, laterItems, laterMembers, List.forall_mem_cons,
      List.forall_mem_append]
    simp [Lexeme.IsPlain, isNumber]
    decide)

theorem ofValue_constantDocument (lexeme : List Char) :
    Dataset.ofValue ((constantDocument lexeme).toValue numberLiteral) =
      .ok (constantDataset (.number (Text.ofChars lexeme))) := rfl

/-- More digits than an integer may have. -/
def overlongNumber : List Char :=
  '1' :: List.replicate digitLimit '0'

theorem isNumber_overlongNumber : IsNumber overlongNumber := by
  have digits : IsDigits overlongNumber := by
    refine ⟨by simp [overlongNumber], List.forall_mem_cons.mpr ⟨rfl, ?_⟩⟩
    intro digit isZero
    rw [List.eq_of_mem_replicate isZero]
    rfl
  exact ⟨[], overlongNumber, [], [], .inl rfl,
    .inr ⟨digits, by simp [overlongNumber]⟩, .inl rfl, .inl rfl, by simp⟩

/-- A mapping with one entry that has a value in all of its fields. -/
def constantValue (value : Value) : Value :=
  .map (namedPairs [("A", .list [.map
    (namedPairs (Entry.fieldNames.map fun name => (name, value)))])])

theorem ofValue_constantValue (whole : Int) :
    Dataset.ofValue (constantValue (.int whole)) =
      .ok (constantDataset (.int whole)) := rfl

theorem isOverlong_raise :
    (Token.int (raise 10 digitLimit : Nat)).IsOverlong := by
  refine ⟨_, rfl, ?_⟩
  rw [lt_length_ofNat_iff (by decide), Int.natAbs_natCast]

/-- As an integer in memory a number of too many digits is refused, while the
same number in a file is rendered. -/
theorem Generator.generate_overlong :
    (∃ dataset, Dataset.ofValue
        (constantValue (.int (raise 10 digitLimit : Nat))) = .ok dataset ∧
      ((Generator.mk .standard 7).generate [] dataset).outcome =
        .error (.unspellable ⟨⟩)) ∧
    ∃ dataset after text, (Dataset.load Dataset.singlePath).run
        (Dataset.singleFile (Utf8.encodeChars
          (constantDocument overlongNumber).compact)) = (.ok dataset, after) ∧
      ((Generator.mk .standard 7).generate [] dataset).outcome = .ok text := by
  obtain ⟨validated, fromFile⟩ :=
    generate_of_validated (Generator.mk .standard 7)
  constructor
  · have valid := ofValue_constantValue (raise 10 digitLimit : Nat)
    refine ⟨_, valid, (validated _ _ valid).fault ?_⟩
    exact ⟨_, List.mem_cons_self, _, List.mem_cons_self, _,
      List.mem_cons_self, isOverlong_raise⟩
  · have spelled := isSpelledBy_constantDocument isNumber_overlongNumber
    have holds := Dataset.ofBytes_encodeChars spelled
      (show 3 ≤ nestingLimit by decide)
    rw [ofValue_constantDocument] at holds
    obtain ⟨after, loaded⟩ := Dataset.load_of_ofBytes
      (Dataset.find_singleFile _) Dataset.check_singlePath
      (Dataset.not_writesTo_singleFile _) holds
    obtain ⟨text, rendered⟩ := fromFile _ _ _ _ loaded
    exact ⟨_, after, text, loaded, rendered⟩

end Overlong

end VestingContract
