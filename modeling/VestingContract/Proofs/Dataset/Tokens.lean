import VestingContract.Proofs.Contract.Spelling
import VestingContract.Proofs.Json.Numbers
import VestingContract.Proofs.Run.Load

/-!
# Tokens of documents

A token that a document holds is a truth value, a text, or a number with the
characters of numbers.  So is every token of a dataset that is loaded: only its
texts hold what the document chooses.
-/

namespace VestingContract

/-- A token that can be written in a document. -/
inductive Token.IsWritten : Token → Prop
  | bool (truth : Bool) : IsWritten (bool truth)
  | text (content : Text) : IsWritten (text content)
  | number {lexeme : List Char}
      (numerals : ∀ char ∈ lexeme, Json.isNumeral char = true) :
      IsWritten (number (Text.ofChars lexeme))

/-- An entry whose tokens can be written in a document. -/
def Entry.IsWritten (entry : Entry) : Prop :=
  ∀ token ∈ entry.tokens, token.IsWritten

/-- A dataset whose tokens can be written in a document. -/
def Dataset.IsWritten (dataset : Dataset) : Prop :=
  ∀ category ∈ dataset, ∀ entry ∈ category.2, entry.IsWritten

/-- The numbers of a document have the characters of numbers. -/
def Json.HasNumerals (document : Json) : Prop :=
  ∀ lexeme ∈ document.numbers, ∀ char ∈ lexeme, isNumeral char = true

section Documents

theorem Token.isWritten_of_ofValue {document : Json} {token : Token}
    (numerals : document.HasNumerals)
    (valid : Token.ofValue (document.toValue numberLiteral) = .ok token) :
    token.IsWritten := by
  cases document with
  | bool truth =>
      cases valid
      exact .bool truth
  | text content =>
      cases valid
      exact .text content
  | number lexeme =>
      cases valid
      exact .number (numerals lexeme List.mem_cons_self)
  | _ => cases valid

theorem Entry.isWritten_of_field {members : List (Text × Json)} {name : Text}
    {token : Token}
    (numerals : ∀ member ∈ members, member.2.HasNumerals)
    (valid : field (Json.toPairs numberLiteral members) name = .ok token) :
    token.IsWritten := by
  rw [field, Json.lookup?_toPairs] at valid
  cases found : members.find? fun member => member.1 = name with
  | none =>
      rw [found] at valid
      cases valid
  | some member =>
      rw [found] at valid
      exact Token.isWritten_of_ofValue
        (numerals member (List.mem_of_find?_eq_some found)) valid

theorem Entry.isWritten_of_ofValue {item : Json} {entry : Entry}
    (numerals : item.HasNumerals)
    (valid : Entry.ofValue (item.toValue numberLiteral) = .ok entry) :
    entry.IsWritten := by
  cases item with
  | object members =>
      rw [Json.toValue_object, ofValue] at valid
      split at valid
      · next isEntry =>
          cases valid
          obtain ⟨address, amountAtStart, amountAtEnd, startDate, endDate⟩ :=
            ofFields?_eq_some_iff.mp isEntry
          have ofField : ∀ {name token}, field (Json.toPairs numberLiteral
              (Json.keptMembers members)) name = .ok token →
              token.IsWritten :=
            isWritten_of_field fun _ isKept _ isNumber =>
              numerals _ (Json.numbers_subset_of_kept isKept isNumber)
          simp only [IsWritten, tokens, List.forall_mem_cons]
          exact ⟨ofField address, ofField amountAtEnd, ofField amountAtStart,
            ofField startDate, ofField endDate, by simp⟩
      · cases valid
  | _ => cases valid

theorem Entry.isWritten_of_ofValues {items : List Json} {position : Nat}
    {entries : List Entry} (numerals : ∀ item ∈ items, item.HasNumerals)
    (valid : Entry.ofValues position (items.map (Json.toValue numberLiteral)) =
      .ok entries) :
    ∀ entry ∈ entries, entry.IsWritten := by
  induction items generalizing position entries with
  | nil =>
      cases valid
      simp
  | cons item items ih =>
      obtain ⟨first, later⟩ := List.forall_mem_cons.mp numerals
      rw [List.map_cons, ofValues] at valid
      split at valid
      · next isFirst areLater =>
          cases valid
          exact List.forall_mem_cons.mpr
            ⟨isWritten_of_ofValue first isFirst, ih later areLater⟩
      · cases valid

theorem isWritten_of_entriesOf {member : Json} {entries : List Entry}
    (numerals : member.HasNumerals)
    (valid : entriesOf (member.toValue numberLiteral) = .ok entries) :
    ∀ entry ∈ entries, entry.IsWritten := by
  cases member with
  | array items =>
      rw [Json.toValue, Json.toValues_eq_map] at valid
      have ofItems : ∀ item ∈ items, item.HasNumerals :=
        fun _ isItem _ isNumber =>
          numerals _ (Json.numbers_subset_of_item isItem isNumber)
      exact Entry.isWritten_of_ofValues ofItems valid
  | object members =>
      rw [Json.toValue_object] at valid
      cases valid
  | _ => cases valid

namespace Dataset

theorem isWritten_of_holdsCategory {members : List (Text × Json)}
    {dataset : Dataset}
    (numerals : ∀ member ∈ members, member.2.HasNumerals)
    (holds : List.Forall₂ HoldsCategory members dataset) :
    dataset.IsWritten := by
  induction holds with
  | nil => simp [IsWritten]
  | cons head _ ih =>
      obtain ⟨first, later⟩ := List.forall_mem_cons.mp numerals
      exact List.forall_mem_cons.mpr
        ⟨isWritten_of_entriesOf first head.2, ih later⟩

theorem isWritten_of_ofValue {document : Json} {dataset : Dataset}
    (numerals : document.HasNumerals)
    (accepted : Dataset.ofValue (document.toValue numberLiteral) =
      .ok dataset) :
    dataset.IsWritten := by
  obtain ⟨members, rfl, holds⟩ := holdsCategory_of_ofValue accepted
  exact isWritten_of_holdsCategory (fun _ isKept _ isNumber =>
    numerals _ (Json.numbers_subset_of_kept isKept isNumber)) holds

theorem isWritten_of_ofBytes {content : List UInt8} {dataset : Dataset}
    (accepted : Dataset.ofBytes content = .ok dataset) :
    dataset.IsWritten := by
  rw [ofBytes] at accepted
  split at accepted
  · cases accepted
  · next chars _ =>
      rcases ofDocument_cases (unifyNewlines chars) with
        ⟨-, refused⟩ | ⟨_, -, refused⟩ | ⟨document, isRead, validated⟩
      · rw [refused] at accepted
        cases accepted
      · rw [refused] at accepted
        cases accepted
      · rw [validated] at accepted
        exact isWritten_of_ofValue (Json.isNumeral_of_read isRead)
          (eq_ok_of_mapError accepted)

/-- Every token of a dataset that is loaded can be written in a document. -/
theorem isWritten_of_load {path : PathName} {world after : World}
    {dataset : Dataset}
    (loaded : (Dataset.load path).run world = (.ok dataset, after)) :
    dataset.IsWritten := by
  obtain ⟨_, _, _, -, holds⟩ := exists_content_of_load loaded
  exact isWritten_of_ofBytes holds

end Dataset

end Documents

end VestingContract
