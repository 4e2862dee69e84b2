import VestingContract.Text.Newlines
import VestingContract.Text.Utf8
import VestingContract.Yaml.Cursor

/-!
# Streams of characters

The characters of a file are decoded and looked through in pieces.  Bytes that
encode no character, and characters that no document may hold, are met only
when their piece is asked for, and of the characters in front of them those of
the earlier pieces have been handed on by then.
-/

namespace VestingContract
namespace Yaml

/-- What breaks a stream off. -/
inductive StreamFault where
  | forbidden
  | undecodable (fault : Utf8.DecodeFault)
  deriving DecidableEq, Repr

/-- A forbidden character breaks a rule of the notation. -/
def StreamFault.toFault : StreamFault → Fault
  | forbidden => .malformed
  | undecodable fault => .undecodable fault

/-- The characters that are handed on, and what breaks them off. -/
structure Stream where
  chars : List Char
  broken : Option StreamFault
  deriving DecidableEq, Repr

namespace Stream

/-- Characters in front of a place that cannot be read, as far as they are
handed on.  They come in runs of 4096, the first two of them together. -/
def handedOn (chars : List Char) : List Char :=
  if chars.length < 8192 then []
  else chars.take (chars.length / 4096 * 4096)

/-- A stream is broken off by the first character that no document may
hold. -/
def check (stream : Stream) : Stream :=
  if stream.chars.all isAllowed then
    stream
  else
    ⟨handedOn (stream.chars.takeWhile isAllowed), some .forbidden⟩

/-- The stream of a file.  `decoded` tells how many bytes have been decoded
in earlier pieces when a piece cannot be.  Bytes that the end of the file
decides on are a piece of their own. -/
def ofBytes (decoded : List UInt8 → Nat) (bytes : List UInt8) : Stream :=
  match Utf8.decode bytes with
  | .ok chars => check ⟨unifyNewlines chars, none⟩
  | .error fault =>
      let front :=
        if fault.isUndecided bytes then fault.position
        else min fault.position (decoded bytes)
      check
        { chars := handedOn (unifyNewlines (Utf8.decodeFront bytes front))
          broken := some (.undecodable
            { fault with position := fault.position - front }) }

end Stream
end Yaml
end VestingContract
