import VestingContract.Text.Quoted

/-!
# UTF-8

Decoding and encoding of texts as bytes.  Decoding refuses overlong forms,
surrogates and numbers beyond the code space, and reports the first sequence
that is wrong; encoding refuses lone surrogates and reports the first run of
them.
-/

namespace VestingContract
namespace Utf8

/-- What is wrong with a sequence of bytes. -/
inductive DecodeReason where
  | invalidStart
  | invalidContinuation
  | truncated
  deriving DecidableEq, Repr

/-- The first wrong sequence: its position, its length and its first byte. -/
structure DecodeFault where
  position : Nat
  length : Nat
  byte : UInt8
  reason : DecodeReason
  deriving DecidableEq, Repr

def DecodeReason.message : DecodeReason → Text
  | invalidStart => "invalid start byte"
  | invalidContinuation => "invalid continuation byte"
  | truncated => "unexpected end of data"

/-- A fault of several bytes names their positions, one of a single byte
names the byte. -/
def DecodeFault.message (fault : DecodeFault) : Text :=
  if fault.length = 1 then
    "'utf-8' codec can't decode byte 0x" ++ Text.ofHex 2 fault.byte.toNat ++
      " in position " ++ Text.ofNat fault.position ++ ": " ++
      fault.reason.message
  else
    "'utf-8' codec can't decode bytes in position " ++
      Text.ofNat fault.position ++ "-" ++
      Text.ofNat (fault.position + fault.length - 1) ++ ": " ++
      fault.reason.message

/-- A byte that continues a sequence. -/
def isContinuation (byte : UInt8) : Bool :=
  0x80 ≤ byte && byte ≤ 0xBF

/-- The second byte keeps a sequence of three bytes out of the shorter
sequences' range and out of the surrogates. -/
def isSecondOfThree (first second : UInt8) : Bool :=
  isContinuation second && (first != 0xE0 || 0xA0 ≤ second) &&
    (first != 0xED || second ≤ 0x9F)

/-- The second byte keeps a sequence of four bytes out of the shorter
sequences' range and inside the code space. -/
def isSecondOfFour (first second : UInt8) : Bool :=
  isContinuation second && (first != 0xF0 || 0x90 ≤ second) &&
    (first != 0xF4 || second ≤ 0x8F)

/-- The character whose bits are spread over the bytes of a sequence. -/
def assemble (leadBits : Nat) (continuations : List UInt8) : Char :=
  Char.ofNat (continuations.foldl
    (fun bits byte => bits * 64 + (byte.toNat - 0x80)) leadBits)

/-- Decode bytes whose first one stands at a position. -/
def decodeFrom (position : Nat) :
    List UInt8 → Except DecodeFault (List Char)
  | [] => .ok []
  | first :: rest =>
      let fail (length : Nat) (reason : DecodeReason) :=
        Except.error ⟨position, length, first, reason⟩
      if first < 0x80 then do
        return Char.ofNat first.toNat :: (← decodeFrom (position + 1) rest)
      else if first < 0xC2 then
        fail 1 .invalidStart
      else if first < 0xE0 then
        match rest with
        | [] => fail 1 .truncated
        | second :: rest =>
            if isContinuation second then do
              return assemble (first.toNat - 0xC0) [second] ::
                (← decodeFrom (position + 2) rest)
            else
              fail 1 .invalidContinuation
      else if first < 0xF0 then
        match rest with
        | [] => fail 1 .truncated
        | second :: rest =>
            if !isSecondOfThree first second then
              fail 1 .invalidContinuation
            else
              match rest with
              | [] => fail 2 .truncated
              | third :: rest =>
                  if isContinuation third then do
                    return assemble (first.toNat - 0xE0) [second, third] ::
                      (← decodeFrom (position + 3) rest)
                  else
                    fail 2 .invalidContinuation
      else if first < 0xF5 then
        match rest with
        | [] => fail 1 .truncated
        | second :: rest =>
            if !isSecondOfFour first second then
              fail 1 .invalidContinuation
            else
              match rest with
              | [] => fail 2 .truncated
              | third :: rest =>
                  if !isContinuation third then
                    fail 2 .invalidContinuation
                  else
                    match rest with
                    | [] => fail 3 .truncated
                    | fourth :: rest =>
                        if isContinuation fourth then do
                          return assemble (first.toNat - 0xF0)
                              [second, third, fourth] ::
                            (← decodeFrom (position + 4) rest)
                        else
                          fail 3 .invalidContinuation
      else
        fail 1 .invalidStart

def decode (bytes : List UInt8) : Except DecodeFault (List Char) :=
  decodeFrom 0 bytes

/-- Bytes that may still become a sequence when more bytes arrive: a sequence
that is cut off, or the first two bytes of a surrogate, which are only refused
when it is clear that a third one does not follow. -/
def DecodeFault.isUndecided (bytes : List UInt8) (fault : DecodeFault) :
    Bool :=
  match fault.reason, bytes.drop fault.position with
  | .truncated, _ => true
  | .invalidContinuation, [first, second] =>
      first == 0xED && 0xA0 ≤ second && second ≤ 0xBF
  | _, _ => false

/-- The characters that some of the first bytes encode. -/
def decodeFront (bytes : List UInt8) (count : Nat) : List Char :=
  match decode (bytes.take count) with
  | .ok chars => chars
  | .error _ => []

/-- The first run of lone surrogates in a text. -/
structure EncodeFault where
  position : Nat
  length : Nat
  first : CodePoint
  deriving DecidableEq, Repr

/-- A run of several surrogates names their positions, a single one is
shown. -/
def EncodeFault.message (fault : EncodeFault) : Text :=
  if fault.length = 1 then
    "'utf-8' codec can't encode character '" ++
      hexEscape fault.first.value ++ "' in position " ++
      Text.ofNat fault.position ++ ": surrogates not allowed"
  else
    "'utf-8' codec can't encode characters in position " ++
      Text.ofNat fault.position ++ "-" ++
      Text.ofNat (fault.position + fault.length - 1) ++
      ": surrogates not allowed"

def encodeChars (chars : List Char) : List UInt8 :=
  chars.flatMap String.utf8EncodeChar

/-- The first run of surrogates of a text that holds one. -/
def firstSurrogates? (text : Text) : Option EncodeFault :=
  let isScalar : CodePoint → Bool
    | .scalar _ => true
    | .surrogate _ => false
  match text.dropWhile isScalar with
  | [] => none
  | first :: rest =>
      some
        { position := (text.takeWhile isScalar).length
          length := 1 + (rest.takeWhile fun point => !isScalar point).length
          first := first }

/-- Encode a text unless it holds a lone surrogate. -/
def encode (text : Text) : Except EncodeFault (List UInt8) :=
  match firstSurrogates? text with
  | some fault => .error fault
  | none => .ok (encodeChars (text.filterMap fun
      | .scalar char => some char
      | .surrogate _ => none))

end Utf8
end VestingContract
