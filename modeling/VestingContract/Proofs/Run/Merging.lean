import VestingContract.Proofs.Run.Load

/-!
# What loading merges

Of several categories with one name, loading keeps the last one in the place
of the first one.  So a contract has all entries that are written in its
document just if no category with entries is followed by one of its name, and
it has the names of the document just if these differ.
-/

namespace VestingContract

namespace Dataset

/-- The contract of a dataset names the categories of the document once each,
where their names first stand, and has for each of them the entries of the
last one.  It has the names of the document just if these differ, and as many
entries as are written there just if the merging loses none. -/
theorem load_keeps_last_members {path : PathName} {world after : World}
    {dataset : Dataset}
    (loaded : (Dataset.load path).run world = (.ok dataset, after))
    (template : Template) :
    ∃ place identity content chars members categories,
      (announced path world).files.find path =
        .ok (.present place (.file identity content)) ∧
      Utf8.decode content = .ok chars ∧
      (Json.lex (unifyNewlines chars)).map Prod.snd =
        (Json.object members).lexemes ∧
      dataset.IsSpelled categories ∧
      renderContract template dataset =
        .ok (template.contractText categories) ∧
      categories.map Prod.fst = (members.map Prod.fst).eraseDups ∧
      (∀ category ∈ categories, ∃ member,
        Json.IsLast member members ∧ GivesCategory member category) ∧
      (categories.map Prod.fst = members.map Prod.fst ↔
        (members.map Prod.fst).Nodup) ∧
      categories.size ≤ Json.writtenEntries members ∧
      (categories.size = Json.writtenEntries members ↔
        Json.LosesNothing members) := by
  rcases load_cases path world with
    ⟨fault, fails⟩ | ⟨place, identity, content, -, found, ends⟩
  · rw [loaded] at fails
    cases fails
  · rw [loaded] at ends
    obtain ⟨chars, members, categories, decoded, written, spelled, given⟩ :=
      isSpelled_of_ofBytes (ofBytes_of_loadContent ends.symm)
    obtain ⟨names, count, gives⟩ := SpelledDataset.of_givesCategory given
    obtain ⟨atMost, exactly⟩ := Json.writtenEntries_keptMembers members
    rw [Json.names_keptMembers] at names
    refine ⟨place, identity, content, chars, members, categories, found,
      decoded, written, spelled, renderContract_of_isSpelled template spelled,
      names, ?_, ?_, by rwa [count], by rwa [count]⟩
    · intro category isCategory
      obtain ⟨member, isKept, givesIt⟩ := gives category isCategory
      exact ⟨member, Json.mem_keptMembers.mp isKept, givesIt⟩
    · rw [names, ← Json.names_keptMembers]
      constructor
      · intro same
        rw [← same]
        exact Json.nodup_keptMembers members
      · intro distinct
        rw [Json.keptMembers_of_nodup distinct]

section Merged

/-- A category with an entry, followed by one of its name without entries. -/
def mergedDocument : List Char :=
  "\x7b\"A\":[\x7b\"address\":1,".toList ++
    "\"allocationAtStartDate\":2,".toList ++
    "\"allocationAtEndDate\":3,".toList ++
    "\"startDate\":4,\"endDate\":5\x7d],".toList ++ "\"A\":[]\x7d".toList

/-- The members that are written in the document. -/
def mergedMembers : List (Text × Json) :=
  [("A", .array [.object [("address", .number ['1']),
      ("allocationAtStartDate", .number ['2']),
      ("allocationAtEndDate", .number ['3']),
      ("startDate", .number ['4']), ("endDate", .number ['5'])]]),
    ("A", .array [])]

/-- A world with the document in a file. -/
def mergedWorld : World where
  files := ⟨[([("data.json" : Text)],
    .file 0 (Utf8.encodeChars mergedDocument))], [], 1⟩
  logging := .initial
  output := []
  errors := []
  uses := []
  clock := .null
  terminal := false
  shipped := ⟨1, []⟩

theorem load_mergedWorld : ∃ after,
    (Dataset.load ⟨0, ["data.json"]⟩).run mergedWorld =
      (.ok [("A", [])], after) := by
  have holds : ((Dataset.load ⟨0, ["data.json"]⟩).run mergedWorld).1 =
      .ok [("A", [])] := by decide +kernel
  exact ⟨((Dataset.load ⟨0, ["data.json"]⟩).run mergedWorld).2,
    Prod.ext holds rfl⟩

theorem mergedDocument_spells : ∃ place identity content,
    (announced ⟨0, ["data.json"]⟩ mergedWorld).files.find
        ⟨0, ["data.json"]⟩ = .ok (.present place (.file identity content)) ∧
      Utf8.decode content = .ok mergedDocument ∧
      (Json.lex (unifyNewlines mergedDocument)).map Prod.snd =
        (Json.object mergedMembers).lexemes := by
  have found : (announced ⟨0, ["data.json"]⟩ mergedWorld).files.find
      ⟨0, ["data.json"]⟩ = .ok (.present ["data.json"]
        (.file 0 (Utf8.encodeChars mergedDocument))) := by decide +kernel
  exact ⟨_, _, _, found, Utf8.decode_encodeChars _, by decide +kernel⟩

/-- The merged document names its category twice and has an entry; its
contract has neither. -/
theorem load_loses_entry : ∃ categories : SpelledDataset,
    renderContract .standard [("A", [])] =
      .ok (Template.standard.contractText categories) ∧
    categories.map Prod.fst = [("A" : Text)] ∧
    categories.map Prod.fst ≠ mergedMembers.map Prod.fst ∧
    categories.size < Json.writtenEntries mergedMembers := by
  obtain ⟨after, loaded⟩ := load_mergedWorld
  obtain ⟨_, _, _, spells, decodedMerged, writtenMerged⟩ :=
    mergedDocument_spells
  obtain ⟨_, _, _, chars, members, categories, found, decoded, written, -,
    rendered, names, -, sameNames, atMost, sameCount⟩ :=
      load_keeps_last_members loaded .standard
  rw [spells] at found
  cases found
  rw [decodedMerged] at decoded
  cases decoded
  rw [writtenMerged] at written
  cases Json.eq_of_lexemes_eq written
  have losesSome : ¬ Json.LosesNothing mergedMembers := fun nothing =>
    absurd (nothing [] _ _ rfl (by decide)) (by decide)
  refine ⟨categories, rendered, names, ?_, ?_⟩
  · rw [Ne, sameNames]
    decide
  · exact lt_of_le_of_ne atMost (mt sameCount.mp losesSome)

/-- A dataset can be loaded without all entries that are written. -/
theorem load_merges_categories :
    ¬ ∀ (path : PathName) (world after : World) (dataset : Dataset)
      (place : List Text) (identity : Nat) (content : List UInt8)
      (chars : List Char) (members : List (Text × Json)),
      (Dataset.load path).run world = (.ok dataset, after) →
      (announced path world).files.find path =
        .ok (.present place (.file identity content)) →
      Utf8.decode content = .ok chars →
      (Json.lex (unifyNewlines chars)).map Prod.snd =
        (Json.object members).lexemes →
      dataset.categories = members.map Prod.fst ∧
        dataset.total = Json.writtenEntries members := by
  intro claim
  obtain ⟨after, loaded⟩ := load_mergedWorld
  obtain ⟨_, _, _, found, decoded, written⟩ := mergedDocument_spells
  obtain ⟨-, all⟩ := claim _ _ _ _ _ _ _ _ _ loaded found decoded written
  exact absurd all (by decide)

end Merged

end Dataset

end VestingContract
