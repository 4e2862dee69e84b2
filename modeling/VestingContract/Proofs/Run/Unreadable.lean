import VestingContract.Proofs.Run.Configuring
import VestingContract.Proofs.Yaml.Streams
import VestingContract.Proofs.Yaml.Values

/-!
# Unreadable configurations

A file that breaks a rule of the notation is refused as a configuration.  One
that is no text, whose escapes or versions are no numbers, whose nodes are too
many inside each other or whose scalars spell no value is not: the fault of
the document leaves the loading as it is.  So does the error of a setting that
is nested too deeply to have a text.
-/

namespace VestingContract

namespace Yaml

/-- Why bytes have no value, other than a broken rule: they encode no
characters, the nodes of their document cannot be read, or the tree of its root
is nested too deeply or has a node whose content spells no value of the kind of
the node. -/
inductive HasNoValue (interpreter : Interpreter) (bytes : List UInt8) :
    Fault → Prop where
  | encoding {fault : Utf8.DecodeFault}
      (broken : ∀ chars, bytes ≠ Utf8.encodeChars chars) :
      HasNoValue interpreter bytes (.undecodable fault)
  | nodes {fault : Fault}
      (unread : rootOf interpreter (.ofBytes interpreter.decoded bytes) =
        .error fault)
      (kind : fault.IsOfNodes) : HasNoValue interpreter bytes fault
  | depth {chars : List Char} {root : Node}
      (encodes : bytes = Utf8.encodeChars chars)
      (read : rootOf interpreter ⟨unifyNewlines chars, none⟩ =
        .ok (some root))
      (deep : 400 < root.depth) : HasNoValue interpreter bytes .tooDeep
  | scalar {chars : List Char} {root inner : Node} {fault : Fault}
      (encodes : bytes = Utf8.encodeChars chars)
      (read : rootOf interpreter ⟨unifyNewlines chars, none⟩ =
        .ok (some root))
      (inside : inner.Within root) (fails : inner.FailsWith fault)
      (kind : fault.IsOfScalars) : HasNoValue interpreter bytes fault

section Bytes

variable {interpreter : Interpreter} {bytes : List UInt8}

/-- A stream is broken off by bytes only if these encode no characters. -/
theorem not_encodes_of_broken {fault : Utf8.DecodeFault}
    (broken : (Stream.ofBytes interpreter.decoded bytes).broken =
      some (.undecodable fault)) :
    ∀ chars, bytes ≠ Utf8.encodeChars chars := by
  rintro chars rfl
  exact Stream.broken_ofBytes_encodeChars _ chars fault broken

theorem hasNoValue_of_rootOf {fault : Fault}
    (unread : rootOf interpreter (.ofBytes interpreter.decoded bytes) =
      .error fault) : HasNoValue interpreter bytes fault := by
  rcases isOfNodes_of_rootOf unread with isOfNodes | broken
  · exact .nodes unread isOfNodes
  · obtain ⟨streamFault, isBroken, rfl⟩ := Option.map_eq_some_iff.mp broken
    cases streamFault with
    | forbidden => exact .nodes unread (.tokens .malformed)
    | undecodable fault => exact .encoding (not_encodes_of_broken isBroken)

theorem hasNoValue_of_load {fault : Fault}
    (fails : load interpreter bytes = .error fault)
    (other : fault ≠ .malformed) : HasNoValue interpreter bytes fault := by
  rcases valueOf_cases fails with
    unread | ⟨root, read, malformed | ⟨inner, inside, explains⟩⟩
  · exact hasNoValue_of_rootOf unread
  · exact absurd malformed other
  · obtain ⟨chars, encodes, isWhole⟩ :=
      Stream.ofBytes_of_not_broken (not_broken_of_rootOf read)
    rw [isWhole] at read
    cases explains with
    | content failsWith =>
        have ⟨_, content, _, unspelled⟩ := failsWith
        exact .scalar encodes read inside failsWith
          (onlyFails_scalarValue _ content fault unspelled)
    | depth deep =>
        exact .depth encodes read (Nat.lt_of_lt_of_le deep inside.depth_le)

theorem HasNoValue.not_encodes {fault : Utf8.DecodeFault}
    (hasNoValue : HasNoValue interpreter bytes (.undecodable fault)) :
    ∀ chars, bytes ≠ Utf8.encodeChars chars := by
  cases hasNoValue with
  | encoding broken => exact broken
  | nodes _ kind =>
      cases kind with
      | tokens isOfTokens => cases isOfTokens
  | scalar _ _ _ _ kind => cases kind

/-- Bytes that encode no characters have no value.  Unless this is why, the
nodes in front of them have been given up, in a file of several pieces. -/
theorem load_of_not_encodes
    (broken : ∀ chars, bytes ≠ Utf8.encodeChars chars) :
    (∃ fault, load interpreter bytes = .error (.undecodable fault)) ∨
    8192 < bytes.length ∧
      ∃ fault, load interpreter bytes = .error fault ∧ fault.IsOfNodes := by
  have unread : ∀ {fault}, rootOf interpreter
      (.ofBytes interpreter.decoded bytes) = .error fault →
        load interpreter bytes = .error fault := by
    intro fault unread
    rw [load, valueOf, unread]
    rfl
  by_cases short : bytes.length ≤ 8192
  · obtain ⟨fault, nothing⟩ := Stream.ofBytes_of_short
      (interpreter.decoded_of_length_le bytes short) short broken
    refine .inl ⟨fault, unread ?_⟩
    rw [nothing, rootOf_of_nil]
    rfl
  · cases read : rootOf interpreter (.ofBytes interpreter.decoded bytes) with
    | ok root =>
        obtain ⟨fault, isBroken⟩ :=
          Stream.exists_broken_of_ofBytes interpreter.decoded broken
        rw [not_broken_of_rootOf read] at isBroken
        cases isBroken
    | error fault =>
        cases hasNoValue_of_rootOf read with
        | encoding => exact .inl ⟨_, unread read⟩
        | nodes _ kind => exact .inr ⟨by omega, fault, unread read, kind⟩
        | depth encodes => exact absurd encodes (broken _)
        | scalar encodes => exact absurd encodes (broken _)

end Bytes

end Yaml

namespace Configuration

/-- How loading ends with what bytes hold: a value is answered, a broken rule
is a fault of configurations, and any other fault of the document is left as
it is. -/
structure EndsAsRead (interpreter : Interpreter) (path : PathName)
    (bytes : List UInt8) (result : Except Failure Configuration) : Prop where
  ends : (∃ configuration, result = .ok configuration) ∨
    (∃ fault, result = .error (.configuration fault)) ∨
    (∃ fault, result = .error (.document fault)) ∨
    result = .error (.reading .recursion)
  answered : ∀ value, Yaml.load interpreter bytes = .ok value →
    Answers interpreter.texts value result
  malformed : Yaml.load interpreter bytes = .error .malformed →
    result = .error (.configuration (.malformed path))
  leftOut : ∀ fault, result = .error (.document fault) ↔
    Yaml.load interpreter bytes = .error fault ∧ fault ≠ .malformed
  undecodable : ∀ fault, result = .error (.document (.undecodable fault)) →
    ∀ chars, bytes ≠ Utf8.encodeChars chars
  notEncoded : (∀ chars, bytes ≠ Utf8.encodeChars chars) →
    (∃ fault, result = .error (.document (.undecodable fault))) ∨
    8192 < bytes.length ∧ ∃ fault,
      Yaml.load interpreter bytes = .error fault ∧ fault.IsOfNodes
  hasNoValue : ∀ fault, result = .error (.document fault) →
    Yaml.HasNoValue interpreter bytes fault

section Content

variable {interpreter : Interpreter} {path : PathName} {bytes : List UInt8}

theorem ofContent_eq_document_iff {fault : Yaml.Fault} :
    ofContent interpreter path bytes = .error (.document fault) ↔
      Yaml.load interpreter bytes = .error fault ∧ fault ≠ .malformed := by
  cases read : Yaml.load interpreter bytes with
  | error other =>
      rw [ofContent_of_fault _ read]
      simp only [Except.error.injEq]
      constructor
      · intro left
        split at left
        · cases left
        · next isOther =>
            cases left
            exact ⟨rfl, isOther⟩
      · rintro ⟨rfl, isOther⟩
        rw [if_neg isOther]
  | ok value =>
      constructor
      · intro left
        rcases (answers_ofContent path read).ends with
          ⟨configuration, isOk⟩ | refused
        · rw [left] at isOk
          cases isOk
        · rw [left] at refused
          cases refused
      · rintro ⟨⟨⟩, -⟩

end Content

theorem endsAsRead_ofContent (interpreter : Interpreter) (path : PathName)
    (bytes : List UInt8) :
    EndsAsRead interpreter path bytes (ofContent interpreter path bytes) where
  ends := by
    cases read : Yaml.load interpreter bytes with
    | error fault =>
        rw [ofContent_of_fault _ read]
        split
        · exact .inr (.inl ⟨_, rfl⟩)
        · exact .inr (.inr (.inl ⟨_, rfl⟩))
    | ok value =>
        rcases (answers_ofContent path read).ends with accepted | refused
        · exact .inl accepted
        · rcases refused.ends with isFault | ⟨escapes, -⟩
          · exact .inr (.inl isFault)
          · exact .inr (.inr (.inr escapes))
  answered value parsed := answers_ofContent path parsed
  malformed broken := by
    rw [ofContent_of_fault _ broken, if_pos rfl]
  leftOut fault := ofContent_eq_document_iff
  undecodable fault left := by
    obtain ⟨fails, other⟩ := ofContent_eq_document_iff.mp left
    exact (Yaml.hasNoValue_of_load fails other).not_encodes
  notEncoded broken := by
    refine (Yaml.load_of_not_encodes broken).imp_left ?_
    rintro ⟨fault, fails⟩
    exact ⟨fault, ofContent_eq_document_iff.mpr ⟨fails, nofun⟩⟩
  hasNoValue fault left := by
    obtain ⟨fails, other⟩ := ofContent_eq_document_iff.mp left
    exact Yaml.hasNoValue_of_load fails other

section SingleByte

/-- A byte that begins no character. -/
def loneByte : List UInt8 := [0xFF]

theorem loneByte_encodes_nothing (chars : List Char) :
    loneByte ≠ Utf8.encodeChars chars := by
  intro encodes
  have decoded := Utf8.decode_eq_ok_iff.mpr encodes
  have fails : Utf8.decode loneByte =
      .error ⟨0, 1, 0xFF, .invalidStart⟩ := rfl
  rw [fails] at decoded
  cases decoded

end SingleByte

end Configuration

end VestingContract
