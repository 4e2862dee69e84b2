import VestingContract.Proofs.Contract.Spelling

/-!
# Generators that are used again

A generator counts the statements of every contract from zero, so it renders
like a new one, whatever it has written before and wherever it had to stop.
The count tells exactly whether entries were left out: the contract is refused
just if the dropped categories hold an entry, and it is else the one in which
nothing is dropped.
-/

namespace VestingContract

section Counting

variable (dropped : List Text)

/-- The number of the entries of dropped categories. -/
def Dataset.droppedEntries (dataset : Dataset) : Nat :=
  Dataset.total (dataset.filter fun category => category.1 ∈ dropped)

/-- An entry is dropped or written. -/
theorem Dataset.total_emptied (dataset : Dataset) :
    (dataset.emptied dropped).total + dataset.droppedEntries dropped =
      dataset.total := by
  induction dataset with
  | nil => rfl
  | cons category dataset ih =>
      simp only [emptied, droppedEntries, List.map_cons] at ih ⊢
      by_cases isDropped : category.1 ∈ dropped
      · simp only [isDropped, List.filter_cons, decide_true, if_true, total,
          List.length_nil]
        omega
      · simp only [isDropped, List.filter_cons, decide_false, if_false,
          Bool.false_eq_true, total]
        omega

theorem Dataset.emptied_of_droppedEntries_eq_zero {dataset : Dataset}
    (none : dataset.droppedEntries dropped = 0) :
    dataset.emptied dropped = dataset := by
  induction dataset with
  | nil => rfl
  | cons category dataset ih =>
      obtain ⟨name, entries⟩ := category
      simp only [emptied, droppedEntries, List.map_cons] at ih none ⊢
      by_cases isDropped : name ∈ dropped
      · simp only [isDropped, List.filter_cons, decide_true, if_true, total,
          Nat.add_eq_zero_iff, List.length_eq_zero_iff] at none ⊢
        rw [none.1, ih none.2]
      · simp only [isDropped, List.filter_cons, decide_false, if_false,
          Bool.false_eq_true] at none ⊢
        rw [ih none]

end Counting

namespace Generator

section Templates

variable (generator : Generator)

@[simp]
theorem template_writeEntries (entries : List Entry) :
    (generator.writeEntries entries).1.template = generator.template := by
  induction entries generalizing generator with
  | nil => rfl
  | cons entry entries ih =>
      rw [writeEntries]
      cases generator.template.pushLine entry with
      | error fault => rfl
      | ok line => exact ih _

@[simp]
theorem template_writeCategories (dropped : List Text) (dataset : Dataset) :
    (generator.writeCategories dropped dataset).1.template =
      generator.template := by
  induction dataset generalizing generator with
  | nil => rfl
  | cons category dataset ih =>
      obtain ⟨name, entries⟩ := category
      have kept := generator.template_writeEntries
        (if name ∈ dropped then [] else entries)
      rw [writeCategories]
      split
      · next after fault written =>
          rw [written] at kept
          exact kept
      · next after lines written =>
          rw [written] at kept
          exact (ih after).trans kept

/-- A generator keeps its template, even where it has to stop. -/
@[simp]
theorem template_generate (dropped : List Text) (dataset : Dataset) :
    (generator.generate dropped dataset).generator.template =
      generator.template :=
  template_writeCategories { generator with pushed := 0 } dropped dataset

end Templates

section Guarding

variable (generator : Generator) {dropped : List Text} {dataset : Dataset}

/-- Without entries in the dropped categories nothing is left out. -/
theorem generate_of_droppedEntries_eq_zero
    (none : dataset.droppedEntries dropped = 0) :
    generator.generate dropped dataset = generator.generate [] dataset := by
  simp only [generate, writeCategories_emptied _ dropped,
    Dataset.emptied_of_droppedEntries_eq_zero dropped none]

/-- The statements that are written are counted. -/
theorem outcome_generate_of_isSpellable
    (spellable : (dataset.emptied dropped).IsSpellable) :
    (∃ text, (generator.generate dropped dataset).outcome = .ok text ∧
      dataset.droppedEntries dropped = 0) ∨
    (generator.generate dropped dataset).outcome =
        .error (.unfilled dataset.total (dataset.emptied dropped).total) ∧
      0 < dataset.droppedEntries dropped := by
  obtain ⟨categories, spelled⟩ := spellable.exists_isSpelled
  obtain ⟨notices, written⟩ := writeCategories_of_isSpelled
    { generator with pushed := 0 } spelled
  have counted := spelled.size_eq
  have allTold := dataset.total_emptied dropped
  simp only [generate, writeCategories_emptied _ dropped, written, counted,
    Nat.zero_add]
  split
  · exact .inl ⟨_, rfl, by omega⟩
  · exact .inr ⟨rfl, by omega⟩

/-- A token without a spelling ends the contract, however many statements are
written. -/
theorem outcome_generate_of_not_isSpellable
    (unspellable : ¬ (dataset.emptied dropped).IsSpellable) :
    (generator.generate dropped dataset).outcome =
      .error (.unspellable ⟨⟩) := by
  have stops := writeCategories_of_not_isSpellable
    { generator with pushed := 0 } unspellable
  simp only [generate, writeCategories_emptied _ dropped, stops]

end Guarding

section Calls

/-- What a generator is asked for: the contract of a dataset, without the
entries of the dropped categories. -/
structure Call where
  dropped : List Text
  dataset : Dataset

/-- What a new generator makes of a call. -/
def Call.rendering (template : Template) (call : Call) : Rendering :=
  (new template).generate call.dropped call.dataset

/-- The tokens that are to be written can all stand in a contract. -/
def Call.EmitsSpellable (call : Call) : Prop :=
  ∀ category ∈ call.dataset, category.1 ∉ call.dropped →
    ∀ entry ∈ category.2, entry.IsSpellable

/-- A call is refused just if it drops an entry.  The refusal tells the number
of all entries and of those that are left; without one the text is that of the
whole dataset. -/
structure Call.IsGuarded (template : Template) (call : Call)
    (outcome : Except RenderFault Text) : Prop where
  refused_iff : (∃ declared emitted,
      outcome = .error (.unfilled declared emitted)) ↔
    0 < call.dataset.droppedEntries call.dropped
  refusal : 0 < call.dataset.droppedEntries call.dropped →
    outcome.mapError RenderFault.message =
      .error ("Declared " ++ Text.ofNat call.dataset.total ++
        " allocations but emitted " ++
        Text.ofNat (call.dataset.total -
          call.dataset.droppedEntries call.dropped) ++ " push statements")
  text : call.dataset.droppedEntries call.dropped = 0 →
    ∃ text, outcome = .ok text ∧
      renderContract template call.dataset = .ok text

/-- Answer calls one after the other.  Every call finds the generator as the
one before has left it. -/
def generateAll (generator : Generator) :
    List Call → List Rendering × Generator
  | [] => ([], generator)
  | call :: calls =>
      let rendering := generator.generate call.dropped call.dataset
      let later := rendering.generator.generateAll calls
      (rendering :: later.1, later.2)

theorem Call.EmitsSpellable.emptied {call : Call}
    (emits : call.EmitsSpellable) :
    (call.dataset.emptied call.dropped).IsSpellable := by
  intro category isCategory entry isEntry
  obtain ⟨original, isOriginal, rfl⟩ := List.mem_map.mp isCategory
  by_cases isDropped : original.1 ∈ call.dropped
  · simp [isDropped] at isEntry
  · rw [if_neg isDropped] at isEntry
    exact emits original isOriginal isDropped entry isEntry

theorem Call.EmitsSpellable.isGuarded {call : Call}
    (emits : call.EmitsSpellable) (template : Template) :
    call.IsGuarded template (call.rendering template).outcome := by
  have allTold := call.dataset.total_emptied call.dropped
  rcases outcome_generate_of_isSpellable (new template) emits.emptied with
    ⟨text, rendered, none⟩ | ⟨refused, some⟩
  · have same := generate_of_droppedEntries_eq_zero (new template) none
    have isText : (call.rendering template).outcome = .ok text := rendered
    refine ⟨?_, fun some => ?_, fun _ => ⟨text, isText, ?_⟩⟩
    · simp [isText, none]
    · omega
    · rw [same] at rendered
      exact rendered
  · have left : (call.dataset.emptied call.dropped).total =
        call.dataset.total - call.dataset.droppedEntries call.dropped := by
      omega
    have isRefused : (call.rendering template).outcome = _ := refused
    refine ⟨?_, fun _ => ?_, fun none => ?_⟩
    · simp [isRefused, some]
    · rw [isRefused, left]
      rfl
    · omega

/-- A generator begins every call afresh. -/
theorem generate_eq_rendering (generator : Generator) (call : Call) :
    generator.generate call.dropped call.dataset =
      call.rendering generator.template := rfl

theorem template_generateAll (generator : Generator) (calls : List Call) :
    (generator.generateAll calls).2.template = generator.template := by
  induction calls generalizing generator with
  | nil => rfl
  | cons call calls ih =>
      have once := generator.template_generate call.dropped call.dataset
      exact (ih _).trans once

theorem renderings_generateAll (generator : Generator) (calls : List Call) :
    (generator.generateAll calls).1 =
      calls.map (Call.rendering generator.template) := by
  induction calls generalizing generator with
  | nil => rfl
  | cons call calls ih =>
      have once := generator.template_generate call.dropped call.dataset
      rw [generateAll, List.map_cons, ← generate_eq_rendering, ih, once]

/-- However often a generator has been used and whatever became of it, every
call is answered as by a new generator with the same template, and refused
just if it drops an entry. -/
theorem generateAll_startsAfresh (generator : Generator)
    (calls : List Call) :
    (generator.generateAll calls).1 =
        calls.map (Call.rendering generator.template) ∧
      (generator.generateAll calls).2.template = generator.template ∧
      ∀ call ∈ calls, call.EmitsSpellable →
        call.IsGuarded generator.template
          (call.rendering generator.template).outcome :=
  ⟨generator.renderings_generateAll calls,
    generator.template_generateAll calls,
    fun _ _ emits => emits.isGuarded generator.template⟩

/-- An entry with a token as its address. -/
def entryAt (address : Token) : Entry :=
  ⟨address, .number "-0", .number "1e3", .text "soon", .bool true⟩

/-- A call that leaves an entry out. -/
def droppingCall : Call :=
  ⟨["Seed"], [("Team", [entryAt (.text "0xA")]),
    ("Seed", [entryAt (.text "0xB")])]⟩

/-- A call that stops at the second entry. -/
def overlongCall : Call :=
  ⟨[], [("Team", [entryAt (.text "0xA"),
    entryAt (.int (raise 10 digitLimit : Nat))])]⟩

/-- A call that drops a category without entries. -/
def sparingCall : Call :=
  ⟨["Seed"], [("Team", [entryAt (.text "0xA")]), ("Seed", [])]⟩

theorem isSpellable_entryAt (name : Text) :
    (entryAt (.text name)).IsSpellable := by
  simp only [Entry.IsSpellable, Entry.tokens, entryAt, List.forall_mem_cons]
  exact ⟨⟨_, rfl⟩, ⟨_, rfl⟩, ⟨_, rfl⟩, ⟨_, rfl⟩, ⟨_, rfl⟩, by simp⟩

theorem not_isSpellable_entryAt :
    ¬ (entryAt (.int (raise 10 digitLimit : Nat))).IsSpellable := by
  have overlong : (Token.int (raise 10 digitLimit : Nat)).IsOverlong := by
    refine ⟨_, rfl, ?_⟩
    rw [lt_length_ofNat_iff (by decide), Int.natAbs_natCast]
  intro spellable
  exact Token.not_isSpellable_iff.mpr overlong
    (spellable _ List.mem_cons_self)

theorem generateAll_mixedCalls :
    ∃ text, ((Generator.mk .standard 7).generateAll
        [droppingCall, overlongCall, sparingCall]).1.map
        (fun rendering => rendering.outcome.mapError RenderFault.message) =
      [.error "Declared 2 allocations but emitted 1 push statements",
        .error (RenderFault.message (.unspellable ⟨⟩)), .ok text] ∧
      renderContract .standard sparingCall.dataset = .ok text := by
  obtain ⟨renderings, -, guarded⟩ :=
    generateAll_startsAfresh (Generator.mk .standard 7)
      [droppingCall, overlongCall, sparingCall]
  have refused := (guarded droppingCall (by simp) (by
    simp [Call.EmitsSpellable, droppingCall, isSpellable_entryAt])).refusal
      (by decide)
  obtain ⟨text, isText, whole⟩ := (guarded sparingCall (by simp) (by
    simp [Call.EmitsSpellable, sparingCall, isSpellable_entryAt])).text
      (by decide)
  have unspellable : ¬ overlongCall.dataset.IsSpellable := fun spellable =>
    not_isSpellable_entryAt (spellable _ List.mem_cons_self _
      (List.mem_cons_of_mem _ List.mem_cons_self))
  have stops : (overlongCall.rendering .standard).outcome =
      .error (.unspellable ⟨⟩) :=
    outcome_generate_of_not_isSpellable (new .standard) (by
      rwa [show overlongCall.dropped = [] from rfl, Dataset.emptied_nil])
  refine ⟨text, ?_, whole⟩
  simp only [renderings, List.map_cons, List.map_nil, refused, stops, isText]
  rfl

end Calls

end Generator

end VestingContract
