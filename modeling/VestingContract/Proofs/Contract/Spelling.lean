import VestingContract.Proofs.Contract.Layout
import VestingContract.Proofs.Number.Wholes
import VestingContract.Proofs.Run.Results

/-!
# Datasets that can be spelled

A contract is written just if every token in it has a spelling, and only an
integer of more digits than the limit allows has none.  The entries of a
dropped category are not written, so they may hold any tokens: a contract
without them is written like one for the dataset in which these categories
have no entries.
-/

namespace VestingContract

section Tokens

/-- The tokens of an entry, in the order of the contract. -/
def Entry.tokens (entry : Entry) : List Token :=
  [entry.address, entry.amountAtEnd, entry.amountAtStart, entry.startDate,
    entry.endDate]

/-- A token that can stand in a contract. -/
def Token.IsSpellable (token : Token) : Prop :=
  ∃ spelling, token.spell = .ok spelling

/-- An entry whose tokens can all stand in a contract. -/
def Entry.IsSpellable (entry : Entry) : Prop :=
  ∀ token ∈ entry.tokens, token.IsSpellable

/-- An integer whose absolute value has more decimal digits than the limit
allows. -/
def Token.IsOverlong (token : Token) : Prop :=
  ∃ whole : Int, token = .int whole ∧
    digitLimit < (Text.ofNat whole.natAbs).length

theorem Token.not_isSpellable_iff {token : Token} :
    ¬ token.IsSpellable ↔ token.IsOverlong := by
  have fails : ¬ token.IsSpellable ↔ token.spell = .error ⟨⟩ := by
    rw [IsSpellable]
    cases token.spell <;> simp
  rw [fails, spell_eq_error_iff]
  simp only [IsOverlong, lt_length_ofNat_iff (show 0 < digitLimit by decide)]

/-- An entry has arguments in a contract just if it can be spelled. -/
theorem Entry.exists_isSpelled_iff {entry : Entry} :
    (∃ arguments, entry.IsSpelled arguments) ↔ entry.IsSpellable := by
  simp only [IsSpellable, tokens, List.forall_mem_cons]
  constructor
  · rintro ⟨arguments, spelled⟩
    exact ⟨⟨_, spelled.address⟩, ⟨_, spelled.amountAtEnd⟩,
      ⟨_, spelled.amountAtStart⟩, ⟨_, spelled.startDate⟩,
      ⟨_, spelled.endDate⟩, by simp⟩
  · rintro ⟨⟨first, address⟩, ⟨second, amountAtEnd⟩, ⟨third, amountAtStart⟩,
      ⟨fourth, startDate⟩, ⟨fifth, endDate⟩, -⟩
    exact ⟨⟨first, second, third, fourth, fifth⟩, address, amountAtEnd,
      amountAtStart, startDate, endDate⟩

theorem Entry.arguments_of_not_isSpellable {entry : Entry}
    (unspellable : ¬ entry.IsSpellable) : entry.arguments = .error ⟨⟩ := by
  cases spelled : entry.arguments with
  | error fault => rfl
  | ok arguments =>
      have each : ∀ token ∈ entry.tokens, token.IsSpellable :=
        exists_of_mapM_eq_ok spelled
      exact absurd each unspellable

end Tokens

section Datasets

/-- The dataset in which the dropped categories have no entries. -/
def Dataset.emptied (dropped : List Text) (dataset : Dataset) : Dataset :=
  dataset.map fun category =>
    (category.1, if category.1 ∈ dropped then [] else category.2)

/-- A dataset whose tokens can all stand in a contract. -/
def Dataset.IsSpellable (dataset : Dataset) : Prop :=
  ∀ category ∈ dataset, ∀ entry ∈ category.2, entry.IsSpellable

@[simp]
theorem Dataset.emptied_nil (dataset : Dataset) :
    dataset.emptied [] = dataset := by
  simp [emptied]

theorem exists_forall₂_isSpelled {entries : List Entry}
    (spellable : ∀ entry ∈ entries, entry.IsSpellable) :
    ∃ arguments, List.Forall₂ Entry.IsSpelled entries arguments := by
  induction entries with
  | nil => exact ⟨[], .nil⟩
  | cons entry entries ih =>
      obtain ⟨first, later⟩ := List.forall_mem_cons.mp spellable
      obtain ⟨arguments, spelled⟩ := Entry.exists_isSpelled_iff.mpr first
      obtain ⟨others, spelledOthers⟩ := ih later
      exact ⟨arguments :: others, .cons spelled spelledOthers⟩

theorem Dataset.IsSpellable.exists_isSpelled {dataset : Dataset}
    (spellable : dataset.IsSpellable) :
    ∃ categories, dataset.IsSpelled categories := by
  induction dataset with
  | nil => exact ⟨[], .nil⟩
  | cons category dataset ih =>
      obtain ⟨first, later⟩ := List.forall_mem_cons.mp spellable
      obtain ⟨arguments, spelled⟩ := exists_forall₂_isSpelled first
      obtain ⟨categories, areSpelled⟩ := ih later
      exact ⟨(category.1, arguments) :: categories,
        .cons ⟨rfl, spelled⟩ areSpelled⟩

end Datasets

namespace Generator

section Failing

variable (generator : Generator)

theorem writeEntries_of_not_isSpellable {entries : List Entry}
    (unspellable : ¬ ∀ entry ∈ entries, entry.IsSpellable) :
    (generator.writeEntries entries).2 = .error ⟨⟩ := by
  induction entries generalizing generator with
  | nil => simp at unspellable
  | cons entry entries ih =>
      by_cases first : entry.IsSpellable
      · have later : ¬ ∀ entry ∈ entries, entry.IsSpellable := by
          intro others
          exact unspellable (List.forall_mem_cons.mpr ⟨first, others⟩)
        obtain ⟨arguments, spelled⟩ := Entry.exists_isSpelled_iff.mpr first
        simp only [writeEntries,
          generator.template.pushLine_of_isSpelled spelled, ih _ later]
        rfl
      · have line : generator.template.pushLine entry = .error ⟨⟩ := by
          rw [Template.pushLine, Template.pushStatement,
            entry.arguments_of_not_isSpellable first]
          rfl
        rw [writeEntries, line]

theorem writeCategories_of_not_isSpellable {dataset : Dataset}
    (unspellable : ¬ dataset.IsSpellable) :
    (generator.writeCategories [] dataset).2.2 = .error ⟨⟩ := by
  induction dataset generalizing generator with
  | nil => simp [Dataset.IsSpellable] at unspellable
  | cons category dataset ih =>
      obtain ⟨name, entries⟩ := category
      by_cases first : ∀ entry ∈ entries, entry.IsSpellable
      · have later : ¬ Dataset.IsSpellable dataset := by
          intro others
          exact unspellable (List.forall_mem_cons.mpr ⟨first, others⟩)
        obtain ⟨arguments, spelled⟩ := exists_forall₂_isSpelled first
        simp only [writeCategories, List.not_mem_nil, if_false,
          generator.writeEntries_of_isSpelled spelled, ih _ later]
        rfl
      · have stops := generator.writeEntries_of_not_isSpellable first
        rcases written : generator.writeEntries entries with ⟨after, text⟩
        rw [written] at stops
        obtain rfl : text = .error ⟨⟩ := stops
        simp only [writeCategories, List.not_mem_nil, if_false, written]

end Failing

/-- Dropped categories are written like categories without entries. -/
theorem writeCategories_emptied (generator : Generator)
    (dropped : List Text) (dataset : Dataset) :
    generator.writeCategories dropped dataset =
      generator.writeCategories [] (dataset.emptied dropped) := by
  induction dataset generalizing generator with
  | nil => rfl
  | cons category dataset ih =>
      obtain ⟨name, entries⟩ := category
      simp only [writeCategories, Dataset.emptied, List.map_cons,
        List.not_mem_nil, if_false] at ih ⊢
      simp only [ih]

end Generator

end VestingContract
