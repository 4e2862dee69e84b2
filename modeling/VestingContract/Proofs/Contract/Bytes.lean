import VestingContract.Proofs.Json.Lexing
import VestingContract.Proofs.Text.Utf8
import VestingContract.Contract.Render
import VestingContract.Dataset.Document

/-!
# A contract is no dataset

A contract begins with a slash, which no document begins with.  So the bytes
of a contract hold no dataset, whatever stands behind them.
-/

namespace VestingContract

/-- A contract begins with the slash of its first comment. -/
theorem renderContract_eq_cons {template : Template} {dataset : Dataset}
    {text : Text} (rendered : renderContract template dataset = .ok text) :
    ∃ rest, text = .scalar '/' :: rest := by
  rw [renderContract, Generator.generate] at rendered
  simp only at rendered
  split at rendered
  · cases rendered
  · split at rendered
    · obtain ⟨rest, begins⟩ : ∃ rest,
          ("// SPDX-License-Identifier: " : Text) = .scalar '/' :: rest :=
        ⟨_, rfl⟩
      rw [← Except.ok.inj rendered, Template.header, begins]
      simp only [List.cons_append]
      exact ⟨_, rfl⟩
    · cases rendered

namespace Utf8

theorem encode_slash {rest : Text} {bytes : List UInt8}
    (encoded : encode (.scalar '/' :: rest) = .ok bytes) :
    ∃ more, bytes = 0x2F :: more := by
  unfold encode at encoded
  split at encoded
  · cases encoded
  · cases encoded
    exact ⟨_, rfl⟩

theorem decode_slash {more : List UInt8} {chars : List Char}
    (decoded : decode (0x2F :: more) = .ok chars) :
    ∃ rest, chars = '/' :: rest := by
  rw [decode, decodeFrom_one (show (0x2F : UInt8).toNat = '/'.toNat from rfl)
    (by decide)] at decoded
  cases later : decodeFrom (0 + 1) more with
  | error fault =>
      rw [later] at decoded
      cases decoded
  | ok rest =>
      rw [later] at decoded
      cases decoded
      exact ⟨rest, rfl⟩

end Utf8

theorem Json.read_slash (limit : Nat) (rest : List Char) :
    Json.read limit ('/' :: rest) =
      .error (.malformed .expectedValue 0) := by
  have stray : wordOrNumber ('/' :: rest) = (.stray, 1) := by
    simp [wordOrNumber, words, numberLexeme?, integralDigits, isDigit]
  have noMark : ¬ ('/' :: rest).head? = some '\uFEFF' := by simp
  rw [read, if_neg noMark, lex, lexFrom,
    firstLexeme_eq_wordOrNumber 0 (by decide), stray]
  rfl

/-- The bytes of a contract hold no dataset, whatever is added to them. -/
theorem Dataset.ofBytes_contract {template : Template} {dataset : Dataset}
    {text : Text} {bytes : List UInt8}
    (rendered : renderContract template dataset = .ok text)
    (encoded : Utf8.encode text = .ok bytes) (added : List UInt8)
    (other : Dataset) : Dataset.ofBytes (bytes ++ added) ≠ .ok other := by
  obtain ⟨rest, rfl⟩ := renderContract_eq_cons rendered
  obtain ⟨more, rfl⟩ := Utf8.encode_slash encoded
  intro holds
  rw [List.cons_append, ofBytes] at holds
  split at holds
  · cases holds
  · next chars decoded =>
      obtain ⟨later, rfl⟩ := Utf8.decode_slash decoded
      rw [unifyNewlines, ofDocument, Json.read_slash] at holds
      · split at holds
        · cases holds
        · cases holds
      · simp
      · simp

end VestingContract
