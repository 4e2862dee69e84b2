import VestingContract.Proofs.Dataset.Format
import VestingContract.Proofs.Json.Rows
import VestingContract.Proofs.Number.Doubles
import VestingContract.Proofs.Run.Memory

/-!
# Values in log lines

A value of texts, truth values, numbers, lists and mappings is written in
printable ASCII, and what is written spells a document in which the value is
found again.  Doubles are found again by whoever reads their shortest texts
back.
-/

namespace VestingContract

namespace Value

/-- Values that are written to a log without a loss: texts without lone
surrogates, integers within the limit of digits, and lists and mappings of
such values, as many as given inside each other at most. -/
inductive IsLoggable : Nat → Value → Prop
  | null {depth : Nat} : IsLoggable depth null
  | bool {depth : Nat} (truth : Bool) : IsLoggable depth (bool truth)
  | int {depth : Nat} {whole : Int}
      (within : (Text.ofNat whole.natAbs).length ≤ digitLimit) :
      IsLoggable depth (int whole)
  | text {depth : Nat} {content : Text} (whole : content.IsWhole) :
      IsLoggable depth (text content)
  | list {depth : Nat} {items : List Value}
      (all : ∀ item ∈ items, IsLoggable depth item) :
      IsLoggable (depth + 1) (list items)
  | map {depth : Nat} {members : List (Text × Value)}
      (distinct : (members.map Prod.fst).Nodup)
      (whole : ∀ member ∈ members, member.1.IsWhole)
      (all : ∀ member ∈ members, IsLoggable depth member.2) :
      IsLoggable (depth + 1) (map (namedPairs members))

/-- Values of the notation of documents: those of above, and the finite ones
among some doubles. -/
inductive IsNotated (Doubles : Binary64 → Prop) : Nat → Value → Prop
  | null {depth : Nat} : IsNotated Doubles depth null
  | bool {depth : Nat} (truth : Bool) : IsNotated Doubles depth (bool truth)
  | int {depth : Nat} {whole : Int}
      (within : (Text.ofNat whole.natAbs).length ≤ digitLimit) :
      IsNotated Doubles depth (int whole)
  | float {depth : Nat} {number : Binary64} (among : Doubles number)
      (isFinite : number.isFinite = true) :
      IsNotated Doubles depth (float number)
  | text {depth : Nat} {content : Text} (whole : content.IsWhole) :
      IsNotated Doubles depth (text content)
  | list {depth : Nat} {items : List Value}
      (all : ∀ item ∈ items, IsNotated Doubles depth item) :
      IsNotated Doubles (depth + 1) (list items)
  | map {depth : Nat} {members : List (Text × Value)}
      (distinct : (members.map Prod.fst).Nodup)
      (whole : ∀ member ∈ members, member.1.IsWhole)
      (all : ∀ member ∈ members, IsNotated Doubles depth member.2) :
      IsNotated Doubles (depth + 1) (map (namedPairs members))

theorem IsLoggable.isNotated {depth : Nat} {value : Value}
    (loggable : IsLoggable depth value) (Doubles : Binary64 → Prop) :
    IsNotated Doubles depth value := by
  induction loggable with
  | null => exact .null
  | bool truth => exact .bool truth
  | int within => exact .int within
  | text whole => exact .text whole
  | list _ all => exact .list all
  | map distinct whole _ all => exact .map distinct whole all

end Value

/-- Numbers are decoded to the integers that they are read as and, where they
are the texts of some doubles, to these. -/
structure Json.ReadsNumbers (Doubles : Binary64 → Prop)
    (ofNumber : List Char → Value) : Prop where
  wholes : ReadsWholes ofNumber
  doubles : ∀ number lexeme, Doubles number →
    number.toText = Text.ofChars lexeme → ofNumber lexeme = .float number

namespace Value

variable (Doubles : Binary64 → Prop)

/-- A document that stands for a value: it is no deeper than it may be, and
decoding it gives the value. -/
structure IsKeptBy (value : Value) (depth : Nat) (document : Json) : Prop where
  depth : document.depth ≤ depth
  decoded : ∀ ofNumber, Json.ReadsNumbers Doubles ofNumber →
    document.toValue ofNumber = value

/-- A value is written as the spelling of a document that stands for it. -/
structure IsWritten (value : Value) (depth : Nat) (part : Json × List Char) :
    Prop extends IsKeptBy Doubles value depth part.1 where
  written : value.toJson = .ok (Text.ofChars part.2)
  spells : Json.Spells part.1.lexemes part.2

/-- A member is written as the spelling of its name and its value. -/
structure IsWrittenMember (member : Text × Value) (depth : Nat)
    (part : (Text × Json) × List Char) : Prop extends
    IsKeptBy Doubles member.2 depth part.1.2 where
  name : part.1.1 = member.1
  written : ∃ text, member.2.toJson = .ok text ∧
    Json.writeText member.1 ++ ": " ++ text = Text.ofChars part.2
  spells : Json.Spells (Json.memberLexemes part.1) part.2

section Containers

variable {Doubles} {depth : Nat}

theorem forall_mem_of_forall₂ {α β : Type} {related : α → β → Prop}
    {Holds : β → Prop} {items : List α} {parts : List β}
    (each : ∀ item part, related item part → Holds part)
    (all : List.Forall₂ related items parts) : ∀ part ∈ parts, Holds part := by
  induction all with
  | nil => exact List.forall_mem_nil _
  | cons first _ ih => exact List.forall_mem_cons.mpr ⟨each _ _ first, ih⟩

theorem IsWritten.member {member : Text × Value} {part : Json × List Char}
    (isWritten : IsWritten Doubles member.2 depth part) (whole : member.1.IsWhole) :
    ∃ chars, IsWrittenMember Doubles member depth ((member.1, part.1), chars) := by
  obtain ⟨name, value⟩ := member
  obtain ⟨content, rfl⟩ := whole
  obtain ⟨spelling, written, spelled, printable⟩ :=
    Json.exists_spelling_writeText content
  have opening : Json.Spells [.text (Text.ofChars content)] spelling :=
    ⟨spelled.single, printable⟩
  have colon : Json.Spells [.colon] [':', ' '] :=
    ⟨Json.SpellsLexeme.colon.withSpace, by decide⟩
  refine ⟨spelling ++ ([':', ' '] ++ part.2),
    { depth := isWritten.depth
      decoded := isWritten.decoded
      name := rfl
      written := ⟨_, isWritten.written, ?_⟩
      spells := opening.append (colon.append isWritten.spells) }⟩
  rw [written, Text.ofChars_append, Text.ofChars_append, List.append_assoc]
  rfl

theorem toJsonItems_of_forall₂ {items : List Value}
    {parts : List (Json × List Char)}
    (written : List.Forall₂ (fun item part => IsWritten Doubles item depth part)
      items parts) :
    toJsonItems items =
      .ok (parts.map fun part => Text.ofChars part.2) := by
  induction written with
  | nil => rfl
  | cons first _ ih =>
      rw [toJsonItems, first.written, ih]
      rfl

theorem toJsonMembers_of_forall₂ {members : List (Text × Value)}
    {parts : List ((Text × Json) × List Char)}
    (written : List.Forall₂
      (fun member part => IsWrittenMember Doubles member depth part) members parts) :
    toJsonMembers (namedPairs members) =
      .ok (parts.map fun part => Text.ofChars part.2) := by
  induction written with
  | nil => rfl
  | cons first _ ih =>
      obtain ⟨text, isText, row⟩ := first.written
      rw [namedPairs, List.map_cons, toJsonMembers, isText, ← namedPairs, ih]
      simp only [List.map_cons, ← row]
      rfl

/-- Lists of documents stand for lists of values. -/
theorem isKeptBy_array {items : List Value} {parts : List (Json × List Char)}
    (written : List.Forall₂ (fun item part => IsWritten Doubles item depth part)
      items parts) :
    IsKeptBy Doubles (list items) (depth + 1) (.array (parts.map Prod.fst)) := by
  constructor
  case depth =>
    rw [Json.depth]
    apply Nat.succ_le_succ
    induction written with
    | nil => exact Nat.zero_le depth
    | cons first _ ih => exact max_le first.depth ih
  case decoded =>
    intro ofNumber reads
    rw [Json.toValue, Json.toValues_eq_map]
    congr 1
    induction written with
    | nil => rfl
    | cons first _ ih =>
        rw [List.map_cons, List.map_cons, first.decoded ofNumber reads, ih]

theorem map_fst_of_forall₂ {members : List (Text × Value)}
    {parts : List ((Text × Json) × List Char)}
    (written : List.Forall₂
      (fun member part => IsWrittenMember Doubles member depth part) members parts) :
    (parts.map Prod.fst).map Prod.fst = members.map Prod.fst := by
  induction written with
  | nil => rfl
  | cons first _ ih =>
      rw [List.map_cons, List.map_cons, List.map_cons, first.name, ih]

/-- Members of different names stand for a mapping. -/
theorem isKeptBy_object {members : List (Text × Value)}
    {parts : List ((Text × Json) × List Char)}
    (distinct : (members.map Prod.fst).Nodup)
    (written : List.Forall₂
      (fun member part => IsWrittenMember Doubles member depth part) members parts) :
    IsKeptBy Doubles (map (namedPairs members)) (depth + 1)
      (.object (parts.map Prod.fst)) := by
  constructor
  case depth =>
    rw [Json.depth]
    apply Nat.succ_le_succ
    clear distinct
    induction written with
    | nil => exact Nat.zero_le depth
    | cons first _ ih => exact max_le first.depth ih
  case decoded =>
    intro ofNumber reads
    have kept : Json.keptMembers (parts.map Prod.fst) =
        parts.map Prod.fst := by
      apply Json.keptMembers_of_nodup
      rwa [map_fst_of_forall₂ written]
    rw [Json.toValue_object, kept]
    congr 1
    clear distinct kept
    induction written with
    | nil => rfl
    | cons first _ ih =>
        rw [List.map_cons, Json.toPairs, ih, first.name,
          first.decoded ofNumber reads]
        rfl

end Containers

section Writing

variable {Doubles} {depth : Nat}

theorem isPrintable_of_isNumber {lexeme : List Char}
    (isNumber : Json.IsNumber lexeme) : Json.IsPrintable lexeme := by
  refine isNumber.forall_mem (fun char isDigit => ?_)
    (Json.forall_mem_of_all (by decide))
  obtain ⟨value, less, rfl⟩ := exists_digitChar isDigit
  exact Json.isPrintable_digitChar (lt_trans less (by decide))

/-- A number is written as the spelling of its own text. -/
theorem spells_number {lexeme : List Char} (isNumber : Json.IsNumber lexeme) :
    Json.Spells [.number lexeme] lexeme :=
  ⟨(Json.SpellsLexeme.number isNumber).single,
    isPrintable_of_isNumber isNumber⟩

theorem exists_isWritten_int {whole : Int}
    (within : (Text.ofNat whole.natAbs).length ≤ digitLimit) :
    ∃ part, IsWritten Doubles (int whole) depth part := by
  obtain ⟨lexeme, written, isWhole⟩ := Json.exists_isWhole_ofInt within
  have isRead := readWhole_ofInt within
  rw [written] at isRead
  refine ⟨(.number lexeme, lexeme), ?_⟩
  constructor
  case toIsKeptBy =>
    exact ⟨Nat.zero_le depth, fun ofNumber reads =>
      reads.wholes lexeme whole isWhole isRead⟩
  case written =>
    rw [toJson, Json.writeWhole, showWhole, spellWhole_of_length within,
      written]
    rfl
  case spells => exact spells_number isWhole.isNumber

theorem writeBinary64_of_isFinite {number : Binary64}
    (isFinite : number.isFinite = true) :
    Json.writeBinary64 number = number.toText := by
  cases number with
  | notANumber => cases isFinite
  | infinite negative => cases isFinite
  | finite negative significand exponent => rfl

theorem exists_isWritten_float {number : Binary64} (among : Doubles number)
    (isFinite : number.isFinite = true) :
    ∃ part, IsWritten Doubles (float number) depth part := by
  obtain ⟨lexeme, written, isNumber⟩ :=
    Binary64.exists_isNumber_toText isFinite
  refine ⟨(.number lexeme, lexeme), ?_⟩
  constructor
  case toIsKeptBy =>
    exact ⟨Nat.zero_le depth, fun ofNumber reads =>
      reads.doubles number lexeme among written⟩
  case written =>
    rw [toJson, writeBinary64_of_isFinite isFinite, written]
  case spells => exact spells_number isNumber

theorem exists_isWritten_text {content : Text} (whole : content.IsWhole) :
    ∃ part, IsWritten Doubles (text content) depth part := by
  obtain ⟨chars, rfl⟩ := whole
  obtain ⟨spelling, written, spelled, printable⟩ :=
    Json.exists_spelling_writeText chars
  refine ⟨(.text (Text.ofChars chars), spelling), ?_⟩
  exact {
    depth := Nat.zero_le depth
    decoded := fun _ _ => rfl
    written := congrArg Except.ok written
    spells := ⟨spelled.single, printable⟩ }

theorem exists_isWritten_bool (truth : Bool) :
    ∃ part, IsWritten Doubles (bool truth) depth part := by
  have decoded : ∀ ofNumber, Json.ReadsNumbers Doubles ofNumber →
      (Json.bool truth).toValue ofNumber = bool truth := fun _ _ => rfl
  cases truth with
  | true =>
      exact ⟨(.bool true, ['t', 'r', 'u', 'e']), {
        depth := Nat.zero_le depth
        decoded := decoded
        written := rfl
        spells := ⟨Json.SpellsLexeme.true.single, by decide⟩ }⟩
  | false =>
      exact ⟨(.bool false, ['f', 'a', 'l', 's', 'e']), {
        depth := Nat.zero_le depth
        decoded := decoded
        written := rfl
        spells := ⟨Json.SpellsLexeme.false.single, by decide⟩ }⟩

theorem exists_isWritten_null : ∃ part, IsWritten Doubles null depth part :=
  ⟨(.null, ['n', 'u', 'l', 'l']), {
    depth := Nat.zero_le depth
    decoded := fun _ _ => rfl
    written := rfl
    spells := ⟨Json.SpellsLexeme.null.single, by decide⟩ }⟩

theorem exists_isWritten_list {items : List Value}
    (each : ∀ item ∈ items, ∃ part, IsWritten Doubles item depth part) :
    ∃ part, IsWritten Doubles (list items) (depth + 1) part := by
  obtain ⟨parts, written⟩ := exists_forall₂_iff.mpr each
  have spells : ∀ row ∈ parts.map fun part => (part.1.lexemes, part.2),
      Json.Spells row.1 row.2 :=
    List.forall_mem_map.mpr
      (forall_mem_of_forall₂ (fun _ _ isWritten => isWritten.spells) written)
  obtain ⟨chars, bracketed, between⟩ := Json.exists_spells_bracketed spells
    ⟨Json.SpellsLexeme.beginArray.single, by decide⟩
    ⟨Json.SpellsLexeme.endArray.single, by decide⟩
  rw [List.map_map] at bracketed between
  refine ⟨(.array (parts.map Prod.fst), chars), ?_⟩
  constructor
  case toIsKeptBy => exact isKeptBy_array written
  case written =>
    rw [toJson, toJsonItems_of_forall₂ written]
    exact congrArg Except.ok bracketed
  case spells =>
    rw [Json.lexemes_array, List.map_map]
    exact between

theorem exists_isWritten_map {members : List (Text × Value)}
    (distinct : (members.map Prod.fst).Nodup)
    (whole : ∀ member ∈ members, member.1.IsWhole)
    (each : ∀ member ∈ members, ∃ part, IsWritten Doubles member.2 depth part) :
    ∃ part, IsWritten Doubles (map (namedPairs members)) (depth + 1) part := by
  have eachMember : ∀ member ∈ members, ∃ part,
      IsWrittenMember Doubles member depth part := by
    intro member isMember
    obtain ⟨part, isWritten⟩ := each member isMember
    obtain ⟨chars, written⟩ := isWritten.member (whole member isMember)
    exact ⟨_, written⟩
  obtain ⟨parts, written⟩ := exists_forall₂_iff.mpr eachMember
  have spells : ∀ row ∈ parts.map fun part =>
      (Json.memberLexemes part.1, part.2), Json.Spells row.1 row.2 :=
    List.forall_mem_map.mpr
      (forall_mem_of_forall₂ (fun _ _ isWritten => isWritten.spells) written)
  obtain ⟨chars, bracketed, between⟩ := Json.exists_spells_bracketed spells
    ⟨Json.SpellsLexeme.beginObject.single, by decide⟩
    ⟨Json.SpellsLexeme.endObject.single, by decide⟩
  rw [List.map_map] at bracketed between
  refine ⟨(.object (parts.map Prod.fst), chars), ?_⟩
  constructor
  case toIsKeptBy => exact isKeptBy_object distinct written
  case written =>
    rw [toJson, toJsonMembers_of_forall₂ written]
    exact congrArg Except.ok bracketed
  case spells =>
    rw [Json.lexemes_object, List.map_map]
    exact between

/-- Every value of the notation is written as the spelling of a document that
stands for it. -/
theorem IsNotated.exists_isWritten {value : Value}
    (notated : IsNotated Doubles depth value) :
    ∃ part, IsWritten Doubles value depth part := by
  induction notated with
  | null => exact exists_isWritten_null
  | bool truth => exact exists_isWritten_bool truth
  | int within => exact exists_isWritten_int within
  | float among isFinite => exact exists_isWritten_float among isFinite
  | text whole => exact exists_isWritten_text whole
  | list _ each => exact exists_isWritten_list each
  | map distinct whole _ each =>
      exact exists_isWritten_map distinct whole each

end Writing

end Value

end VestingContract
