import VestingContract.Value.Basic
import VestingContract.Yaml.Stream
import VestingContract.Yaml.Tokens

/-!
# Interpreters

What the reading of a document owes to the process that reads it and not to
the document: in which order a set is walked through, how many calls may be
inside each other, and in which pieces a file arrives.
-/

namespace VestingContract

/-- A number of calls inside each other that a process has room for: there is
always room for 400, and never for more than 4000. -/
abbrev Room := { room : Nat // 400 ≤ room ∧ room ≤ 4000 }

/-- What a process decides about the reading of documents. -/
structure Interpreter where
  /-- The items of a set in the order in which it is walked through, from the
  order in which they were put in. -/
  arrange : List Value → List Value
  arrange_perm : ∀ items, (arrange items).Perm items
  /-- For nodes inside each other while they are read. -/
  nodes : Room
  /-- For mappings that take over the pairs of others, or stand for values. -/
  merges : Room
  /-- For containers inside each other while they are shown. -/
  texts : Room
  /-- The number of bytes that are decoded in earlier pieces of a file when a
  piece cannot be decoded. -/
  decoded : List UInt8 → Nat
  decoded_of_length_le : ∀ bytes, bytes.length ≤ 8192 → decoded bytes = 0
  /-- The next token is not settled by the characters that are there. -/
  asksOn : Yaml.Scanner → Bool

namespace Yaml

/-- Endings that complete a token that has been begun. -/
def completions : List (List Char) :=
  ["x ", " ", "\n", "\"", "\x27", "\\\"", "1\"", "01\"", "0001\"", "> ", "1 ",
    "41 ", " 1.1\n", ".1\n", " !x! x\n"].map String.toList

/-- A token is not settled if it is the last one or if an ending makes a
difference. -/
def Scanner.isUnsettled (scanner : Scanner) : Bool :=
  match scanner.step with
  | .ok next => next.cursor.rest.length < 4
  | .error fault => completions.any fun ending =>
      let cursor := scanner.cursor
      let longer := { cursor with rest := cursor.rest ++ ending }
      match { scanner with cursor := longer }.step with
      | .ok _ => true
      | .error other => other != fault

end Yaml

/-- An interpreter that keeps sets in order and reads files in pieces of 8192
bytes. -/
def Interpreter.plain : Interpreter where
  arrange := id
  arrange_perm _ := .rfl
  nodes := ⟨450, by decide⟩
  merges := ⟨950, by decide⟩
  texts := ⟨950, by decide⟩
  decoded bytes :=
    if bytes.length ≤ 8192 then 0
    else
      match Utf8.decode bytes with
      | .ok _ => 0
      | .error fault => fault.position / 8192 * 8192
  decoded_of_length_le _ short := if_pos short
  asksOn := Yaml.Scanner.isUnsettled

end VestingContract
