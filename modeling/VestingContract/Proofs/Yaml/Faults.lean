import VestingContract.Proofs.Run.Results
import VestingContract.Yaml.Construct

/-!
# Kinds of faults

What can go wrong while a document is cut into tokens, while the tokens are
put together to nodes, and while a scalar is read.
-/

namespace VestingContract
namespace Yaml

/-- The faults of tokens: a broken rule, bytes that encode no character, an
escape beyond the code space, and a number of a version that is no number. -/
inductive Fault.IsOfTokens : Fault → Prop where
  | malformed : IsOfTokens .malformed
  | escapeOutOfRange : IsOfTokens .escapeOutOfRange
  | escapeTooLarge : IsOfTokens .escapeTooLarge
  | version (fault : WholeFault) : IsOfTokens (.whole fault)

/-- The faults of nodes: those of their tokens, and that there are too many
of them inside each other. -/
inductive Fault.IsOfNodes : Fault → Prop where
  | tokens {fault : Fault} (isOfTokens : fault.IsOfTokens) : IsOfNodes fault
  | tooDeep : IsOfNodes .tooDeep

/-- The faults of scalars: a broken rule, and a content that spells no number,
no truth value and no time. -/
inductive Fault.IsOfScalars : Fault → Prop where
  | malformed : IsOfScalars .malformed
  | whole (fault : WholeFault) : IsOfScalars (.whole fault)
  | real (source : Text) : IsOfScalars (.real source)
  | unitTooLarge : IsOfScalars .unitTooLarge
  | truthValue (word : Text) : IsOfScalars (.truthValue word)
  | emptyNumber : IsOfScalars .emptyNumber
  | notADate : IsOfScalars .notADate
  | calendar (fault : CalendarFault) : IsOfScalars (.calendar fault)

attribute [simp] Fault.IsOfTokens.malformed Fault.IsOfTokens.escapeOutOfRange
  Fault.IsOfTokens.escapeTooLarge Fault.IsOfTokens.version
  Fault.IsOfScalars.malformed Fault.IsOfScalars.whole Fault.IsOfScalars.real
  Fault.IsOfScalars.unitTooLarge Fault.IsOfScalars.truthValue
  Fault.IsOfScalars.emptyNumber Fault.IsOfScalars.notADate
  Fault.IsOfScalars.calendar

section Names

variable (cursor : Cursor)

@[simp]
theorem onlyFails_name : OnlyFails Fault.IsOfTokens (name cursor) := by
  simp [name]

@[simp]
theorem onlyFails_anchorName :
    OnlyFails Fault.IsOfTokens (anchorName cursor) := by
  simp [anchorName]

@[simp]
theorem onlyFails_tagHandle :
    OnlyFails Fault.IsOfTokens (tagHandle cursor) := by
  simp [tagHandle]

@[simp]
theorem onlyFails_percentBytes (bytes : List UInt8) (bound : Nat) :
    OnlyFails Fault.IsOfTokens (percentBytes cursor bytes bound) := by
  induction bound generalizing cursor bytes with
  | zero => simp [percentBytes]
  | succ bound ih =>
      simp only [percentBytes, onlyFails_ite, onlyFails_ok, implies_true,
        and_true]
      intro _
      split <;> simp [ih]

@[simp]
theorem onlyFails_tagTextFrom (gathered : List Char) (bound : Nat) :
    OnlyFails Fault.IsOfTokens (tagTextFrom cursor gathered bound) := by
  induction bound generalizing cursor gathered with
  | zero => simp [tagTextFrom]
  | succ bound ih =>
      simp only [tagTextFrom, onlyFails_ite, onlyFails_bind,
        onlyFails_percentBytes, onlyFails_ok, implies_true, and_true,
        true_and]
      intro _ _ _
      split <;> simp [ih]

@[simp]
theorem onlyFails_tagText : OnlyFails Fault.IsOfTokens (tagText cursor) := by
  simp [tagText]

@[simp]
theorem onlyFails_tagToken :
    OnlyFails Fault.IsOfTokens (tagToken cursor) := by
  simp [tagToken]

@[simp]
theorem onlyFails_versionNumber :
    OnlyFails Fault.IsOfTokens (versionNumber cursor) := by
  rw [versionNumber]
  simp only [onlyFails_ite, onlyFails_error, Fault.IsOfTokens.malformed,
    implies_true, true_and]
  intro _
  split <;> simp

@[simp]
theorem onlyFails_ignoredLine :
    OnlyFails Fault.IsOfTokens cursor.ignoredLine := by
  simp [Cursor.ignoredLine]

@[simp]
theorem onlyFails_directiveToken :
    OnlyFails Fault.IsOfTokens (directiveToken cursor) := by
  simp [directiveToken, versionDirective, handleDirective]

end Names

section Scalars

variable (cursor : Cursor)

@[simp]
theorem onlyFails_quotedBreaks (gathered : List Char) (bound : Nat) :
    OnlyFails Fault.IsOfTokens (cursor.quotedBreaks gathered bound) := by
  induction bound generalizing cursor gathered with
  | zero => simp [Cursor.quotedBreaks]
  | succ bound ih => simp [Cursor.quotedBreaks, ih]

@[simp]
theorem onlyFails_numericEscape (count : Nat) :
    OnlyFails Fault.IsOfTokens (numericEscape cursor count) := by
  rw [numericEscape]
  split
  · simp
  · simp only [onlyFails_ite, onlyFails_error, Fault.IsOfTokens.malformed,
      implies_true, true_and]
    intro _
    split <;> simp

@[simp]
theorem onlyFails_escape : OnlyFails Fault.IsOfTokens (escape cursor) := by
  rw [escape]
  split <;> simp

@[simp]
theorem onlyFails_quotedBlanks :
    OnlyFails Fault.IsOfTokens (quotedBlanks cursor) := by
  simp [quotedBlanks]

@[simp]
theorem onlyFails_quotedContent (double : Bool) (gathered : Text)
    (bound : Nat) :
    OnlyFails Fault.IsOfTokens
      (quotedContent double cursor gathered bound) := by
  induction bound generalizing cursor gathered with
  | zero => simp [quotedContent]
  | succ bound ih => simp [quotedContent, ih]

@[simp]
theorem onlyFails_quotedScalar :
    OnlyFails Fault.IsOfTokens (quotedScalar cursor) := by
  simp [quotedScalar]

@[simp]
theorem onlyFails_blockHeader :
    OnlyFails Fault.IsOfTokens (blockHeader cursor) := by
  rw [blockHeader]
  split
  all_goals
    simp only []
    try split
    all_goals simp

@[simp]
theorem onlyFails_blockScalar (indent : Int) :
    OnlyFails Fault.IsOfTokens (blockScalar indent cursor) := by
  simp [blockScalar]

end Scalars

namespace Scanner

variable (scanner : Scanner)

@[simp]
theorem onlyFails_dropStaleKeys :
    OnlyFails Fault.IsOfTokens scanner.dropStaleKeys := by
  simp [dropStaleKeys]

@[simp]
theorem onlyFails_dropKey : OnlyFails Fault.IsOfTokens scanner.dropKey := by
  rw [dropKey]
  split <;> simp

@[simp]
theorem onlyFails_saveKey : OnlyFails Fault.IsOfTokens scanner.saveKey := by
  simp [saveKey]

/-- A token fails if reading it does. -/
theorem onlyFails_documentToken
    {read : Cursor → Except Fault (Token × Cursor)}
    (reads : ∀ cursor, OnlyFails Fault.IsOfTokens (read cursor)) :
    OnlyFails Fault.IsOfTokens (scanner.documentToken read) := by
  simp [documentToken, reads]

theorem onlyFails_keyToken
    {read : Cursor → Except Fault (Token × Cursor)}
    (reads : ∀ cursor, OnlyFails Fault.IsOfTokens (read cursor)) :
    OnlyFails Fault.IsOfTokens (scanner.keyToken read) := by
  simp [keyToken, reads]

@[simp]
theorem onlyFails_blockIndicator (opening token : Token)
    (allowsKey : Bool) :
    OnlyFails Fault.IsOfTokens
      (scanner.blockIndicator opening token allowsKey) := by
  simp only [blockIndicator, bind_pure_comp, pure_bind, onlyFails_ite,
    onlyFails_bind, onlyFails_throw, onlyFails_map, onlyFails_dropKey,
    Fault.IsOfTokens.malformed, reduceCtorEq, false_implies, implies_true,
    and_self, and_true, true_and]
  intro _ _
  split <;> simp

@[simp]
theorem onlyFails_valueIndicator :
    OnlyFails Fault.IsOfTokens scanner.valueIndicator := by
  rw [valueIndicator]
  split <;> simp

@[simp]
theorem onlyFails_endStream :
    OnlyFails Fault.IsOfTokens scanner.endStream := by
  simp [endStream]

@[simp]
theorem onlyFails_documentMark (token : Token) :
    OnlyFails Fault.IsOfTokens (scanner.documentMark token) :=
  scanner.onlyFails_documentToken fun _ => onlyFails_ok

@[simp]
theorem onlyFails_openBracket (token : Token) :
    OnlyFails Fault.IsOfTokens (scanner.openBracket token) := by
  simp [openBracket]

@[simp]
theorem onlyFails_closeBracket (token : Token) :
    OnlyFails Fault.IsOfTokens (scanner.closeBracket token) := by
  simp [closeBracket]

@[simp]
theorem onlyFails_flowEntry :
    OnlyFails Fault.IsOfTokens scanner.flowEntry := by
  simp [flowEntry]

@[simp]
theorem onlyFails_blockScalarToken :
    OnlyFails Fault.IsOfTokens scanner.blockScalarToken := by
  simp [blockScalarToken]

@[simp]
theorem onlyFails_plainToken :
    OnlyFails Fault.IsOfTokens scanner.plainToken := by
  simp [plainToken]

@[simp]
theorem onlyFails_tokenHere :
    OnlyFails Fault.IsOfTokens scanner.tokenHere := by
  simp only [tokenHere, onlyFails_ite, onlyFails_endStream,
    onlyFails_documentMark, onlyFails_openBracket, onlyFails_closeBracket,
    onlyFails_flowEntry, onlyFails_blockIndicator, onlyFails_valueIndicator,
    onlyFails_blockScalarToken, onlyFails_plainToken, onlyFails_error,
    Fault.IsOfTokens.malformed, onlyFails_documentToken, onlyFails_keyToken,
    onlyFails_bind, onlyFails_pure, onlyFails_anchorName,
    onlyFails_directiveToken, onlyFails_tagToken, onlyFails_quotedScalar,
    implies_true, and_true]

theorem onlyFails_step : OnlyFails Fault.IsOfTokens scanner.step := by
  simp [step]

variable (beyond : Scanner → Option Fault)

theorem run_succ (bound : Nat) :
    scanner.run beyond (bound + 1) =
      if scanner.ended then
        (scanner.tokens.reverse, none)
      else
        match scanner.dropStaleKeys with
        | .error fault => (scanner.tokens.reverse, some fault)
        | .ok scanner =>
            match beyond scanner with
            | some fault => (scanner.toldTokens, some fault)
            | none =>
                match scanner.step with
                | .error fault => (scanner.toldTokens, some fault)
                | .ok scanner => scanner.run beyond bound := by
  delta run
  rfl

/-- A document is cut off by a fault of tokens, or by what is met beyond its
characters. -/
theorem isOfTokens_of_run {bound : Nat} {fault : Fault}
    (cutOff : (scanner.run beyond bound).2 = some fault) :
    fault.IsOfTokens ∨ ∃ scanner, beyond scanner = some fault := by
  induction bound generalizing scanner with
  | zero =>
      obtain rfl : Fault.malformed = fault := Option.some.inj cutOff
      exact .inl .malformed
  | succ bound ih =>
      rw [run_succ] at cutOff
      split at cutOff
      · cases cutOff
      · split at cutOff
        · next other stale =>
            cases cutOff
            exact .inl (scanner.onlyFails_dropStaleKeys _ stale)
        · split at cutOff
          · next other met =>
              cases cutOff
              exact .inr ⟨_, met⟩
          · split at cutOff
            · next other stuck =>
                cases cutOff
                exact .inl (onlyFails_step _ _ stuck)
            · exact ih _ cutOff

end Scanner

/-- The tokens of a stream are cut off by a fault of tokens, or where the
stream is broken off. -/
theorem isOfTokens_of_tokensOf {interpreter : Interpreter} {stream : Stream}
    {fault : Fault}
    (cutOff : (tokensOf (stream.beyond interpreter) stream.chars).2 =
      some fault) :
    fault.IsOfTokens ∨ stream.broken.map StreamFault.toFault = some fault := by
  refine (Scanner.isOfTokens_of_run _ _ cutOff).imp_right ?_
  rintro ⟨scanner, met⟩
  simp only [Stream.beyond] at met
  split at met
  · cases met
  · next broken isBroken =>
      split at met
      · cases met
        rw [isBroken]
        rfl
      · cases met

namespace Composing

/-- Work on tokens keeps the fault that cuts them off, and fails with this
fault or with a fault of nodes. -/
def FailsAsNodes {α : Type} (work : Composing α) : Prop :=
  ∀ composer,
    OnlyFails (fun fault => fault.IsOfNodes ∨ composer.fault = some fault)
      (work.run composer) ∧
    ∀ found, work.run composer = .ok found → found.2.fault = composer.fault

section Steps

variable {α β : Type}

@[simp]
theorem failsAsNodes_pure (value : α) :
    FailsAsNodes (pure value : Composing α) := by
  refine fun composer => ⟨onlyFails_ok, ?_⟩
  rintro _ ⟨⟩
  rfl

@[simp]
theorem failsAsNodes_throw {fault : Fault} (isOfNodes : fault.IsOfNodes) :
    FailsAsNodes (throw fault : Composing α) := by
  refine fun composer => ⟨?_, fun _ same => nomatch same⟩
  rintro _ ⟨⟩
  exact .inl isOfNodes

@[simp]
theorem failsAsNodes_get : FailsAsNodes (get : Composing Composer) := by
  refine fun composer => ⟨onlyFails_ok, ?_⟩
  rintro _ ⟨⟩
  rfl

theorem failsAsNodes_modify {change : Composer → Composer}
    (keeps : ∀ composer, (change composer).fault = composer.fault) :
    FailsAsNodes (modify change : Composing Unit) := by
  refine fun composer => ⟨onlyFails_ok, ?_⟩
  rintro _ ⟨⟩
  exact keeps composer

theorem FailsAsNodes.bind {work : Composing α} {next : α → Composing β}
    (first : FailsAsNodes work)
    (later : ∀ value, FailsAsNodes (next value)) :
    FailsAsNodes (work >>= next) := by
  intro composer
  obtain ⟨fails, keeps⟩ := first composer
  rw [StateT.run_bind]
  cases ran : work.run composer with
  | error fault =>
      refine ⟨?_, fun _ same => nomatch same⟩
      rintro _ ⟨⟩
      exact fails fault ran
  | ok found =>
      have same := keeps found ran
      rw [← same]
      exact later found.1 found.2

@[simp]
theorem failsAsNodes_ite {test : Prop} [Decidable test]
    {work other : Composing α} :
    FailsAsNodes (if test then work else other) ↔
      (test → FailsAsNodes work) ∧ (¬ test → FailsAsNodes other) := by
  by_cases holds : test <;> simp [holds]

theorem failsAsNodes_malformed :
    FailsAsNodes (throw .malformed : Composing α) :=
  failsAsNodes_throw (.tokens .malformed)

/-- What is done unless a guard throws a fault of nodes. -/
theorem failsAsNodes_guarded {test : Prop} [Decidable test] {fault : Fault}
    {next : PUnit → Composing α} (isOfNodes : fault.IsOfNodes)
    (nextFails : ∀ value, FailsAsNodes (next value)) :
    FailsAsNodes
      (if test then throw fault >>= fun value => next value
        else next ⟨⟩) := by
  split
  · exact (failsAsNodes_throw isOfNodes).bind fun value => nextFails value
  · exact nextFails _

end Steps

section Reading

theorem failsAsNodes_peek : FailsAsNodes peek := by
  intro composer
  obtain ⟨tokens, fault, anchors, handles⟩ := composer
  cases tokens with
  | cons token tokens =>
      refine ⟨onlyFails_ok, ?_⟩
      rintro _ ⟨⟩
      rfl
  | nil =>
      refine ⟨?_, fun _ same => nomatch same⟩
      rintro _ ⟨⟩
      cases fault with
      | none => exact .inl (.tokens .malformed)
      | some fault => exact .inr rfl

theorem failsAsNodes_drop : FailsAsNodes drop :=
  failsAsNodes_modify fun _ => rfl

theorem failsAsNodes_accept (token : Token) :
    FailsAsNodes (accept token) := by
  refine failsAsNodes_peek.bind fun next => ?_
  split
  · exact failsAsNodes_drop.bind fun _ => failsAsNodes_pure _
  · exact failsAsNodes_pure _

theorem failsAsNodes_require (token : Token) :
    FailsAsNodes (require token) := by
  refine (failsAsNodes_accept token).bind fun accepted => ?_
  split
  · exact failsAsNodes_malformed
  · exact failsAsNodes_pure _

theorem failsAsNodes_nextIn (tokens : List Token) :
    FailsAsNodes (nextIn tokens) :=
  failsAsNodes_peek.bind fun _ => failsAsNodes_pure _

theorem failsAsNodes_anchor? : FailsAsNodes anchor? := by
  refine failsAsNodes_peek.bind fun token => ?_
  split
  · exact failsAsNodes_drop.bind fun _ => failsAsNodes_pure _
  · exact failsAsNodes_pure _

theorem failsAsNodes_tag? : FailsAsNodes tag? := by
  refine failsAsNodes_peek.bind fun token => ?_
  split
  · exact failsAsNodes_drop.bind fun _ => failsAsNodes_pure _
  · exact failsAsNodes_pure _

theorem failsAsNodes_properties : FailsAsNodes properties := by
  refine failsAsNodes_anchor?.bind fun anchor => ?_
  split
  · exact failsAsNodes_tag?.bind fun _ => failsAsNodes_pure _
  · refine failsAsNodes_tag?.bind fun tag => ?_
    split
    · exact failsAsNodes_anchor?.bind fun _ => failsAsNodes_pure _
    · exact failsAsNodes_pure _

theorem failsAsNodes_resolveTag (tag : Option (Option Text × Text)) :
    FailsAsNodes (resolveTag tag) := by
  rw [resolveTag.eq_def]
  split
  · exact failsAsNodes_pure _
  · exact failsAsNodes_pure _
  · refine failsAsNodes_get.bind fun composer => ?_
    split
    · exact failsAsNodes_malformed
    · exact failsAsNodes_pure _

theorem run_declare_some (anchor : Text) (tag : Tag) (composer : Composer) :
    (declare (some anchor) tag).run composer =
      if (composer.anchors.lookup anchor).isSome then .error .malformed
      else .ok (⟨⟩, { composer with
        anchors := (anchor, .loop tag) :: composer.anchors }) := by
  by_cases known : (composer.anchors.lookup anchor).isSome
  all_goals
    simp only [declare, StateT.run_bind, StateT.run_get, pure_bind, known]
    rfl

theorem failsAsNodes_declare (anchor : Option Text) (tag : Tag) :
    FailsAsNodes (declare anchor tag) := by
  cases anchor with
  | none => exact failsAsNodes_pure _
  | some anchor =>
      intro composer
      rw [run_declare_some]
      split
      · exact ⟨onlyFails_error.mpr (.inl (.tokens .malformed)),
          fun _ same => nomatch same⟩
      · refine ⟨onlyFails_ok, ?_⟩
        rintro _ ⟨⟩
        rfl

theorem failsAsNodes_define (anchor : Option Text) (node : Node) :
    FailsAsNodes (define anchor node) := by
  rw [define.eq_def]
  split
  · exact failsAsNodes_pure _
  · exact failsAsNodes_modify fun _ => rfl

theorem failsAsNodes_resolveAlias (found : Text) :
    FailsAsNodes (resolveAlias found) := by
  refine failsAsNodes_get.bind fun composer => ?_
  split
  · exact failsAsNodes_malformed
  · exact failsAsNodes_pure _

end Reading

section Nodes

/-- Nodes and the parts of nodes are read with faults of nodes, up to a
bound. -/
structure NodesFail (bound : Nat) : Prop where
  node : ∀ block indentless depth,
    FailsAsNodes (Composing.node block indentless bound depth)
  nodeUnless : ∀ stops block indentless depth,
    FailsAsNodes (Composing.nodeUnless stops block indentless bound depth)
  flowItems : ∀ first depth,
    FailsAsNodes (Composing.flowItems first bound depth)
  flowValue : ∀ closing depth,
    FailsAsNodes (Composing.flowValue closing bound depth)
  flowPairs : ∀ first depth,
    FailsAsNodes (Composing.flowPairs first bound depth)
  blockItems : ∀ depth, FailsAsNodes (Composing.blockItems bound depth)
  indentlessItems : ∀ depth,
    FailsAsNodes (Composing.indentlessItems bound depth)
  blockPairs : ∀ depth, FailsAsNodes (Composing.blockPairs bound depth)
  blockValue : ∀ depth, FailsAsNodes (Composing.blockValue bound depth)

theorem nodesFail_zero : NodesFail 0 := by
  constructor <;> intros <;> exact failsAsNodes_malformed

variable {bound : Nat} (ih : NodesFail bound)

include ih

theorem failsAsNodes_nodeUnless (stops : List Token)
    (block indentless : Bool) (depth : Nat) :
    FailsAsNodes
      (Composing.nodeUnless stops block indentless (bound + 1) depth) := by
  rw [Composing.nodeUnless]
  refine (failsAsNodes_nextIn stops).bind fun isStop => ?_
  split
  · exact failsAsNodes_pure _
  · exact ih.node _ _ _

theorem failsAsNodes_flowValue (closing : Token) (depth : Nat) :
    FailsAsNodes (Composing.flowValue closing (bound + 1) depth) := by
  rw [Composing.flowValue]
  refine (failsAsNodes_accept _).bind fun accepted => ?_
  split
  · exact ih.nodeUnless _ _ _ _
  · exact failsAsNodes_pure _

omit ih in
/-- A comma in front of all items but the first one. -/
theorem failsAsNodes_separated {α : Type} {first : Bool}
    {items : Composing α} (itemsFail : FailsAsNodes items) :
    FailsAsNodes
      (if !first then require .flowEntry >>= fun _ => items else items) := by
  split
  · exact (failsAsNodes_require _).bind fun _ => itemsFail
  · exact itemsFail

theorem failsAsNodes_flowItems (first : Bool) (depth : Nat) :
    FailsAsNodes (Composing.flowItems first (bound + 1) depth) := by
  rw [Composing.flowItems]
  refine (failsAsNodes_accept _).bind fun closes => ?_
  split
  · exact failsAsNodes_pure _
  · refine failsAsNodes_separated
      ((failsAsNodes_accept _).bind fun isKey => ?_)
    split
    · refine (ih.nodeUnless _ _ _ _).bind fun key => ?_
      refine (ih.flowValue _ _).bind fun value => ?_
      exact (ih.flowItems _ _).bind fun _ => failsAsNodes_pure _
    · refine (failsAsNodes_accept _).bind fun closes => ?_
      split
      · exact failsAsNodes_pure _
      · refine (ih.node _ _ _).bind fun item => ?_
        exact (ih.flowItems _ _).bind fun _ => failsAsNodes_pure _

theorem failsAsNodes_flowPairs (first : Bool) (depth : Nat) :
    FailsAsNodes (Composing.flowPairs first (bound + 1) depth) := by
  rw [Composing.flowPairs]
  refine (failsAsNodes_accept _).bind fun closes => ?_
  split
  · exact failsAsNodes_pure _
  · refine failsAsNodes_separated
      ((failsAsNodes_accept _).bind fun isKey => ?_)
    split
    · refine (ih.nodeUnless _ _ _ _).bind fun key => ?_
      refine (ih.flowValue _ _).bind fun value => ?_
      exact (ih.flowPairs _ _).bind fun _ => failsAsNodes_pure _
    · refine (failsAsNodes_accept _).bind fun closes => ?_
      split
      · exact failsAsNodes_pure _
      · refine (ih.node _ _ _).bind fun key => ?_
        exact (ih.flowPairs _ _).bind fun _ => failsAsNodes_pure _

theorem failsAsNodes_blockItems (depth : Nat) :
    FailsAsNodes (Composing.blockItems (bound + 1) depth) := by
  rw [Composing.blockItems]
  refine (failsAsNodes_accept _).bind fun isEntry => ?_
  split
  · refine (ih.nodeUnless _ _ _ _).bind fun item => ?_
    exact (ih.blockItems _).bind fun _ => failsAsNodes_pure _
  · exact (failsAsNodes_require _).bind fun _ => failsAsNodes_pure _

theorem failsAsNodes_indentlessItems (depth : Nat) :
    FailsAsNodes (Composing.indentlessItems (bound + 1) depth) := by
  rw [Composing.indentlessItems]
  refine (failsAsNodes_accept _).bind fun isEntry => ?_
  split
  · refine (ih.nodeUnless _ _ _ _).bind fun item => ?_
    exact (ih.indentlessItems _).bind fun _ => failsAsNodes_pure _
  · exact failsAsNodes_pure _

theorem failsAsNodes_blockValue (depth : Nat) :
    FailsAsNodes (Composing.blockValue (bound + 1) depth) := by
  rw [Composing.blockValue]
  refine (failsAsNodes_accept _).bind fun accepted => ?_
  split
  · exact ih.nodeUnless _ _ _ _
  · exact failsAsNodes_pure _

theorem failsAsNodes_blockPairs (depth : Nat) :
    FailsAsNodes (Composing.blockPairs (bound + 1) depth) := by
  rw [Composing.blockPairs]
  refine (failsAsNodes_accept _).bind fun isKey => ?_
  split
  · refine (ih.nodeUnless _ _ _ _).bind fun key => ?_
    refine (ih.blockValue _).bind fun value => ?_
    exact (ih.blockPairs _).bind fun _ => failsAsNodes_pure _
  · exact (failsAsNodes_require _).bind fun _ => failsAsNodes_pure _

omit ih in
/-- A node is read with its parts, between its declaration and its
definition. -/
theorem failsAsNodes_defined {α : Type} {anchor : Option Text} {kind : Tag}
    {parts : Composing α} {join : α → Node} (partsFail : FailsAsNodes parts) :
    FailsAsNodes (do
      declare anchor kind
      let node := join (← parts)
      define anchor node
      return node) := by
  refine (failsAsNodes_declare _ _).bind fun _ => ?_
  refine partsFail.bind fun found => ?_
  exact (failsAsNodes_define _ _).bind fun _ => failsAsNodes_pure _

omit ih in
theorem failsAsNodes_bare {scalarOf : Bool → Text → Composing Node}
    (properties : Properties)
    (scalarFails : ∀ plain content, FailsAsNodes (scalarOf plain content)) :
    FailsAsNodes (node.bare properties scalarOf) := by
  rw [node.bare]
  split
  · exact scalarFails _ _
  · exact failsAsNodes_malformed

theorem failsAsNodes_node (block indentless : Bool) (depth : Nat) :
    FailsAsNodes
      (Composing.node block indentless (bound + 1) depth) := by
  rw [Composing.node]
  refine failsAsNodes_get.bind fun composer => ?_
  refine failsAsNodes_guarded .tooDeep fun _ =>
    failsAsNodes_peek.bind fun first => ?_
  split
  · exact failsAsNodes_drop.bind fun _ => failsAsNodes_resolveAlias _
  · refine failsAsNodes_properties.bind fun properties => ?_
    refine (failsAsNodes_resolveTag _).bind fun tag => ?_
    refine failsAsNodes_peek.bind fun next => ?_
    have scalarFails : ∀ (plain : Bool) (content : Text), FailsAsNodes (do
        declare properties.anchor (scalarTag tag plain content)
        let node := Node.scalar (scalarTag tag plain content) content
        define properties.anchor node
        return node) := fun plain content =>
      (failsAsNodes_declare _ _).bind fun _ =>
        (failsAsNodes_define _ _).bind fun _ => failsAsNodes_pure _
    have bareFails := failsAsNodes_bare properties scalarFails
    cases next with
    | blockEntry =>
        refine failsAsNodes_ite.mpr ⟨fun _ => ?_, fun _ => bareFails⟩
        exact failsAsNodes_defined (ih.indentlessItems _)
    | scalar content plain =>
        exact failsAsNodes_drop.bind fun _ => scalarFails _ _
    | flowSequenceStart =>
        exact failsAsNodes_drop.bind fun _ =>
          failsAsNodes_defined (ih.flowItems _ _)
    | flowMappingStart =>
        exact failsAsNodes_drop.bind fun _ =>
          failsAsNodes_defined (ih.flowPairs _ _)
    | blockSequenceStart =>
        refine failsAsNodes_ite.mpr ⟨fun _ => ?_, fun _ => bareFails⟩
        exact failsAsNodes_drop.bind fun _ =>
          failsAsNodes_defined (ih.blockItems _)
    | blockMappingStart =>
        refine failsAsNodes_ite.mpr ⟨fun _ => ?_, fun _ => bareFails⟩
        exact failsAsNodes_drop.bind fun _ =>
          failsAsNodes_defined (ih.blockPairs _)
    | _ => exact bareFails

theorem nodesFail_succ : NodesFail (bound + 1) where
  node := failsAsNodes_node ih
  nodeUnless := failsAsNodes_nodeUnless ih
  flowItems := failsAsNodes_flowItems ih
  flowValue := failsAsNodes_flowValue ih
  flowPairs := failsAsNodes_flowPairs ih
  blockItems := failsAsNodes_blockItems ih
  indentlessItems := failsAsNodes_indentlessItems ih
  blockPairs := failsAsNodes_blockPairs ih
  blockValue := failsAsNodes_blockValue ih

omit ih in
theorem nodesFail (bound : Nat) : NodesFail bound := by
  induction bound with
  | zero => exact nodesFail_zero
  | succ bound ih => exact nodesFail_succ ih

end Nodes

section Documents

theorem failsAsNodes_directives (versioned : Bool)
    (declared : List (Text × Text)) (bound : Nat) :
    FailsAsNodes (directives versioned declared bound) := by
  induction bound generalizing versioned declared with
  | zero => exact failsAsNodes_malformed
  | succ bound ih =>
      rw [directives]
      refine failsAsNodes_peek.bind fun token => ?_
      split
      · exact failsAsNodes_guarded (.tokens .malformed) fun _ =>
          failsAsNodes_drop.bind fun _ => ih _ _
      · exact failsAsNodes_guarded (.tokens .malformed) fun _ =>
          failsAsNodes_drop.bind fun _ => ih _ _
      · exact failsAsNodes_drop.bind fun _ => ih _ _
      · exact failsAsNodes_pure _

theorem failsAsNodes_documentStart (bound : Nat) :
    FailsAsNodes (documentStart bound) := by
  refine (failsAsNodes_directives _ _ _).bind fun declared => ?_
  refine (failsAsNodes_require _).bind fun _ => ?_
  exact failsAsNodes_modify fun _ => rfl

theorem failsAsNodes_documentEnds (bound : Nat) :
    FailsAsNodes (documentEnds bound) := by
  induction bound with
  | zero => exact failsAsNodes_pure _
  | succ bound ih =>
      rw [documentEnds]
      refine (failsAsNodes_accept _).bind fun ends => ?_
      split
      · exact ih
      · exact failsAsNodes_pure _

theorem failsAsNodes_document (bound : Nat) :
    FailsAsNodes (document bound) := by
  have finish : ∀ root : Node, FailsAsNodes (do
      documentEnds bound
      if (← peek) ≠ .streamEnd then
        documentStart bound
        throw .malformed
      return some root) := by
    intro root
    refine (failsAsNodes_documentEnds bound).bind fun _ => ?_
    refine failsAsNodes_peek.bind fun next => ?_
    refine failsAsNodes_ite.mpr ⟨fun _ => ?_, fun _ => failsAsNodes_pure _⟩
    refine (failsAsNodes_documentStart bound).bind fun _ => ?_
    exact failsAsNodes_malformed.bind fun _ => failsAsNodes_pure _
  rw [document]
  refine failsAsNodes_peek.bind fun first => ?_
  split
  · exact failsAsNodes_pure _
  · refine failsAsNodes_peek.bind fun next => ?_
    cases next with
    | directive | documentStart =>
        exact (failsAsNodes_documentStart bound).bind fun _ =>
          ((nodesFail bound).nodeUnless _ _ _ _).bind finish
    | _ => exact ((nodesFail bound).node _ _ _).bind finish

end Documents

end Composing

/-- The root of a document is not read because of a fault of nodes, or because
its stream is broken off. -/
theorem isOfNodes_of_rootOf {interpreter : Interpreter} {stream : Stream}
    {fault : Fault} (fails : rootOf interpreter stream = .error fault) :
    fault.IsOfNodes ∨ stream.broken.map StreamFault.toFault = some fault := by
  have composed : OnlyFails (fun fault => fault.IsOfNodes ∨
      stream.broken.map StreamFault.toFault = some fault)
        (rootOf interpreter stream) := by
    cases told : tokensOf (stream.beyond interpreter) stream.chars with
    | mk tokens cutOff =>
        have read := Composing.failsAsNodes_document (4 * tokens.length + 16)
          ⟨tokens, cutOff, [], standardHandles, interpreter.nodes⟩
        simp only [rootOf, told, onlyFails_bind]
        refine ⟨fun fault fails => ?_, fun found _ => ?_⟩
        · rcases read.1 fault fails with isOfNodes | isCutOff
          · exact .inl isOfNodes
          · exact (isOfTokens_of_tokensOf
              ((congrArg Prod.snd told).trans isCutOff)).imp_left .tokens
        · cases stream.broken with
          | none => exact onlyFails_pure
          | some broken => exact onlyFails_throw.mpr (.inr rfl)
  exact composed fault fails

section ScalarValues

theorem onlyFails_splitSign (content : Text) :
    OnlyFails Fault.IsOfScalars (splitSign content) := by
  rw [splitSign.eq_def]
  split <;> simp

theorem onlyFails_wholeIn (base : Nat) (digits : Text) :
    OnlyFails Fault.IsOfScalars (wholeIn base digits) := by
  simp only [wholeIn, onlyFails_mapError]
  exact fun fault _ => .whole fault

theorem onlyFails_unsignedWhole (content : Text) :
    OnlyFails Fault.IsOfScalars (unsignedWhole content) := by
  rw [unsignedWhole.eq_def]
  simp only [onlyFails_ite, onlyFails_wholeIn, onlyFails_pure, implies_true,
    true_and]
  intro _ _ _
  split
  · simp
  · simp [onlyFails_wholeIn, onlyFails_mapM]

theorem onlyFails_wholeValue (content : Text) :
    OnlyFails Fault.IsOfScalars (wholeValue content) := by
  simp [wholeValue, onlyFails_splitSign, onlyFails_unsignedWhole]

theorem onlyFails_realIn (content : Text) :
    OnlyFails Fault.IsOfScalars (realIn content) := by
  rw [realIn]
  split <;> simp

theorem onlyFails_sexagesimalReal (sum : Binary64) (unit : Int)
    (parts : List Binary64) :
    OnlyFails Fault.IsOfScalars (sexagesimalReal sum unit parts) := by
  induction parts generalizing sum unit with
  | nil => exact onlyFails_ok
  | cons part parts ih =>
      rw [sexagesimalReal]
      split
      · exact ih _ _
      · exact onlyFails_error.mpr .unitTooLarge

theorem onlyFails_realValue (content : Text) :
    OnlyFails Fault.IsOfScalars (realValue content) := by
  simp [realValue, onlyFails_splitSign, onlyFails_realIn, onlyFails_mapM,
    onlyFails_sexagesimalReal]

theorem onlyFails_truthValue (content : Text) :
    OnlyFails Fault.IsOfScalars (truthValue content) := by
  simp [truthValue]

theorem onlyFails_base64Bytes (place pads rest : Nat) (chars : List Char) :
    OnlyFails Fault.IsOfScalars (base64Bytes place pads rest chars) := by
  induction chars generalizing place pads rest with
  | nil => simp [base64Bytes]
  | cons char chars ih =>
      rw [base64Bytes.eq_def]
      simp only [onlyFails_ite, onlyFails_ok, ih, implies_true, true_and]
      refine fun _ => ?_
      split
      · exact ih _ _ _
      · exact ih _ _ _
      all_goals exact onlyFails_map.mpr (ih _ _ _)

theorem onlyFails_bytesValue (content : Text) :
    OnlyFails Fault.IsOfScalars (bytesValue content) := by
  simp [bytesValue, onlyFails_base64Bytes]

theorem onlyFails_timeValue (content : Text) :
    OnlyFails Fault.IsOfScalars (timeValue content) := by
  rw [timeValue]
  split
  · simp
  · simp only [onlyFails_mapError]
    exact fun fault _ => .calendar fault

/-- A scalar has no value because of a fault of scalars. -/
theorem onlyFails_scalarValue (tag : Tag) (content : Text) :
    OnlyFails Fault.IsOfScalars (scalarValue tag content) := by
  rw [scalarValue.eq_def]
  split
  · exact onlyFails_ok
  · exact onlyFails_map.mpr (onlyFails_truthValue content)
  · exact onlyFails_map.mpr (onlyFails_wholeValue content)
  · exact onlyFails_map.mpr (onlyFails_realValue content)
  · exact onlyFails_map.mpr (onlyFails_bytesValue content)
  · exact onlyFails_timeValue content
  · exact onlyFails_ok
  · exact onlyFails_error.mpr .malformed

end ScalarValues

end Yaml
end VestingContract
