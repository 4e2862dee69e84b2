import VestingContract.Proofs.Text.Utf8
import VestingContract.Proofs.Yaml.Faults

/-!
# Streams that are broken off

A stream is broken off where its bytes encode no character or where they
encode one that no document may hold.  No root is found in it, and if nothing
is handed on before, then what breaks the stream off is what is met.
-/

namespace VestingContract

namespace Utf8

theorem eq_error_of_cons {result : Except DecodeFault (List Char)}
    {char : Char} {fault : DecodeFault}
    (fails : (do return char :: (← result)) = .error fault) :
    result = .error fault := by
  cases result with
  | ok chars => cases fails
  | error other =>
      cases fails
      rfl

/-- What is wrong stands among the bytes that are decoded. -/
theorem position_of_decodeFrom {position : Nat} {bytes : List UInt8}
    {fault : DecodeFault}
    (fails : decodeFrom position bytes = .error fault) :
    fault.position < position + bytes.length := by
  fun_induction decodeFrom position bytes with
  | case1 => cases fails
  | case2 _ _ _ _ ih | case5 _ _ _ _ _ _ _ _ ih
  | case10 _ _ _ _ _ _ _ _ _ _ _ ih
  | case17 _ _ _ _ _ _ _ _ _ _ _ _ _ _ ih =>
      have later := ih (eq_error_of_cons fails)
      simp only [List.length_cons]
      omega
  | _ =>
      cases fails
      simp only [List.length_cons]
      omega

theorem length_le_length_encodeChars (chars : List Char) :
    chars.length ≤ (encodeChars chars).length := by
  induction chars with
  | nil => exact Nat.zero_le _
  | cons char chars ih =>
      have bytes := Char.utf8Size_pos char
      rw [encodeChars, List.flatMap_cons, List.length_append,
        String.length_utf8EncodeChar, List.length_cons]
      rw [encodeChars] at ih
      omega

/-- There are no more characters in the first bytes than there are bytes. -/
theorem length_decodeFront_le (bytes : List UInt8) (count : Nat) :
    (decodeFront bytes count).length ≤ count := by
  rw [decodeFront]
  cases decoded : decode (bytes.take count) with
  | error fault => exact Nat.zero_le _
  | ok chars =>
      calc chars.length
        _ ≤ (encodeChars chars).length := length_le_length_encodeChars chars
        _ = (bytes.take count).length := by rw [decode_eq_ok_iff.mp decoded]
        _ ≤ count := List.length_take_le count bytes

end Utf8

theorem length_unifyNewlines_le (chars : List Char) :
    (unifyNewlines chars).length ≤ chars.length := by
  fun_induction unifyNewlines chars with
  | case1 => exact Nat.le_refl _
  | case2 rest ih =>
      simp only [List.length_cons]
      omega
  | case3 rest _ ih => exact Nat.succ_le_succ ih
  | case4 char rest _ _ ih => exact Nat.succ_le_succ ih

namespace Yaml

namespace Stream

variable {decoded : List UInt8 → Nat} {bytes : List UInt8}

/-- The check leaves a stream broken off, or breaks it off itself. -/
theorem broken_check (stream : Stream) :
    stream.check.broken = stream.broken ∨
      stream.check.broken = some .forbidden := by
  rw [check]
  split
  · exact .inl rfl
  · exact .inr rfl

theorem broken_ofBytes_encodeChars (decoded : List UInt8 → Nat)
    (chars : List Char) (fault : Utf8.DecodeFault) :
    (ofBytes decoded (Utf8.encodeChars chars)).broken ≠
      some (.undecodable fault) := by
  rw [ofBytes, Utf8.decode_encodeChars]
  dsimp only
  rcases broken_check ⟨unifyNewlines chars, none⟩ with same | forbidden
  · rw [same]
    exact nofun
  · rw [forbidden]
    exact nofun

/-- A stream that is not broken off holds the characters of its bytes. -/
theorem ofBytes_of_not_broken (whole : (ofBytes decoded bytes).broken = none) :
    ∃ chars, bytes = Utf8.encodeChars chars ∧
      ofBytes decoded bytes = ⟨unifyNewlines chars, none⟩ := by
  rw [ofBytes] at whole ⊢
  cases read : Utf8.decode bytes with
  | error fault =>
      rw [read] at whole
      dsimp only at whole
      rcases broken_check _ with same | forbidden
      · rw [same] at whole
        cases whole
      · rw [forbidden] at whole
        cases whole
  | ok chars =>
      refine ⟨chars, Utf8.decode_eq_ok_iff.mp read, ?_⟩
      rw [read] at whole
      dsimp only at whole ⊢
      rw [check] at whole ⊢
      split
      · rfl
      · next forbidden =>
          rw [if_neg forbidden] at whole
          cases whole

/-- Bytes that encode nothing break their stream off. -/
theorem exists_broken_of_ofBytes (decoded : List UInt8 → Nat)
    (broken : ∀ chars, bytes ≠ Utf8.encodeChars chars) :
    ∃ fault, (ofBytes decoded bytes).broken = some fault := by
  rw [ofBytes]
  cases read : Utf8.decode bytes with
  | ok chars => exact absurd (Utf8.decode_eq_ok_iff.mp read) (broken chars)
  | error fault =>
      dsimp only
      rcases broken_check _ with same | forbidden
      · exact ⟨_, same⟩
      · exact ⟨_, forbidden⟩

theorem handedOn_of_short {chars : List Char} (short : chars.length < 8192) :
    handedOn chars = [] :=
  if_pos short

/-- Where a file is one piece, nothing is handed on in front of bytes that
encode nothing. -/
theorem ofBytes_of_short (single : decoded bytes = 0)
    (short : bytes.length ≤ 8192)
    (broken : ∀ chars, bytes ≠ Utf8.encodeChars chars) :
    ∃ fault, ofBytes decoded bytes = ⟨[], some (.undecodable fault)⟩ := by
  rw [ofBytes]
  cases read : Utf8.decode bytes with
  | ok chars => exact absurd (Utf8.decode_eq_ok_iff.mp read) (broken chars)
  | error fault =>
      have inside : fault.position < 0 + bytes.length :=
        Utf8.position_of_decodeFrom read
      have nothing : ∀ front, front ≤ fault.position →
          handedOn (unifyNewlines (Utf8.decodeFront bytes front)) = [] := by
        intro front before
        apply handedOn_of_short
        have unified := length_unifyNewlines_le (Utf8.decodeFront bytes front)
        have fewer := Utf8.length_decodeFront_le bytes front
        omega
      dsimp only
      rw [nothing _ (by split <;> omega)]
      exact ⟨_, rfl⟩

end Stream

section Roots

variable {interpreter : Interpreter} {stream : Stream}

/-- No root is found in a stream that is broken off. -/
theorem not_broken_of_rootOf {root : Option Node}
    (read : rootOf interpreter stream = .ok root) : stream.broken = none := by
  cases isBroken : stream.broken with
  | none => rfl
  | some broken =>
      obtain ⟨found, -, ends⟩ := exists_of_bind_eq_ok read
      rw [isBroken] at ends
      cases ends

/-- Without characters the first token is the end, unless the stream is broken
off. -/
theorem tokensOf_nil (beyond : Scanner → Option Fault) :
    tokensOf beyond [] =
      match beyond (Scanner.start []) with
      | some fault => ([], some fault)
      | none => ([.streamEnd], none) := by
  rw [tokensOf, Scanner.run_succ]
  have fresh : (Scanner.start []).dropStaleKeys = .ok (Scanner.start []) := rfl
  rw [fresh]
  cases met : beyond (Scanner.start []) with
  | some fault =>
      simp only [met]
      rfl
  | none =>
      simp only [met]
      rfl

/-- What breaks a stream off in front of its first character is met. -/
theorem rootOf_of_nil (interpreter : Interpreter) (broken : StreamFault) :
    rootOf interpreter ⟨[], some broken⟩ = .error broken.toFault := by
  rw [rootOf, tokensOf_nil]
  cases asks : interpreter.asksOn (Scanner.start []) <;>
    simp only [Stream.beyond, asks] <;> rfl

end Roots

end Yaml
end VestingContract
