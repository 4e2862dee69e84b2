import VestingContract.Number.Fixed
import VestingContract.Value.Key
import VestingContract.Value.Display

/-!
# Messages with arguments

A message may hold directives, each a percent sign with flags, a width, a
precision and a letter, which the arguments of a record are put in the place
of.  A directive takes the next argument, or the one under its key if there is
a mapping of arguments.
-/

namespace VestingContract

/-- Why a message cannot be put together. -/
inductive FormatFault where
  | mappingRequired
  | incompleteKey
  | incomplete
  | missingKey (key : Text)
  | tooFewArguments
  | tooManyArguments
  | starNotAnInteger
  | widthTooBig
  | precisionTooBig
  | sizeTooLarge (target : Text)
  | realRequired (letter : CodePoint) (kind : Text)
  | integerRequired (letter : CodePoint) (kind : Text)
  | notAReal (kind : Text)
  | notANumberAsInteger (name : Text)
  | infinityAsInteger (name : Text)
  | integerTooLargeForReal
  | signalingAsReal
  | notACharacter
  | characterOutOfRange
  | unsupported (letter : CodePoint) (index : Nat)
  | unspellable (fault : ShowFault)
  deriving DecidableEq, Repr

def FormatFault.message : FormatFault → Text
  | mappingRequired => "format requires a mapping"
  | incompleteKey => "incomplete format key"
  | incomplete => "incomplete format"
  | missingKey key => key.quoted
  | tooFewArguments => "not enough arguments for format string"
  | tooManyArguments =>
      "not all arguments converted during string formatting"
  | starNotAnInteger => "* wants int"
  | widthTooBig => "width too big"
  | precisionTooBig => "precision too big"
  | sizeTooLarge target =>
      "Python int too large to convert to C " ++ target
  | realRequired letter kind =>
      "%" ++ [letter] ++ " format: a real number is required, not " ++ kind
  | integerRequired letter kind =>
      "%" ++ [letter] ++ " format: an integer is required, not " ++ kind
  | notAReal kind => "must be real number, not " ++ kind
  | notANumberAsInteger name => "cannot convert " ++ name ++ " to integer"
  | infinityAsInteger name => "cannot convert " ++ name ++ " to integer"
  | integerTooLargeForReal => "int too large to convert to float"
  | signalingAsReal => "cannot convert signaling NaN to float"
  | notACharacter => "%c requires int or char"
  | characterOutOfRange => "%c arg not in range(0x110000)"
  | unsupported letter index =>
      let shown : CodePoint :=
        if 31 ≤ letter.value ∧ letter.value ≤ 126 then letter
        else .scalar '?'
      "unsupported format character '" ++ [shown] ++ "' (0x" ++
        Text.ofHex 0 letter.value ++ ") at index " ++ Text.ofNat index
  | unspellable fault => fault.message

/-- The arguments of a record. -/
inductive Arguments where
  | sequence (values : List Value)
  | mapping (pairs : List (Value × Value))
  deriving Repr

/-- The arguments of a call.  A single mapping that holds something is a
mapping of arguments. -/
def Arguments.ofCall : List Value → Arguments
  | [.map (pair :: pairs)] => mapping (pair :: pairs)
  | values => sequence values

/-- A width or precision as it is written. -/
inductive SizePart where
  | absent
  | star
  | digits (digits : List CodePoint)
  deriving DecidableEq, Repr

/-- The key of a directive as it is written. -/
inductive KeyPart where
  | absent
  | unclosed
  | key (key : Text)
  deriving DecidableEq, Repr

/-- A percent sign with what belongs to it.  A directive that the end of the
message cuts off has no letter. -/
structure Directive where
  key : KeyPart
  flags : List CodePoint
  width : SizePart
  precision : SizePart
  letter : Option CodePoint
  index : Nat
  deriving DecidableEq, Repr

/-- A part of a message. -/
inductive MessagePart where
  | plain (codePoint : CodePoint)
  | directive (directive : Directive)
  deriving DecidableEq, Repr

namespace Directive

def isDigit (codePoint : CodePoint) : Bool :=
  48 ≤ codePoint.value && codePoint.value ≤ 57

def numberOf (digits : List CodePoint) : Nat :=
  digits.foldl (fun number digit => number * 10 + (digit.value - 48)) 0

/-- The text of a key up to the parenthesis that closes it, with the
parentheses inside it in pairs. -/
def closedKey? (depth : Nat) : Text → Option Text
  | [] => none
  | .scalar ')' :: rest =>
      if depth = 0 then some []
      else (closedKey? (depth - 1) rest).map (.scalar ')' :: ·)
  | .scalar '(' :: rest =>
      (closedKey? (depth + 1) rest).map (.scalar '(' :: ·)
  | codePoint :: rest => (closedKey? depth rest).map (codePoint :: ·)

/-- The key at the beginning of a text and its length. -/
def readKey : Text → KeyPart × Nat
  | .scalar '(' :: rest =>
      match closedKey? 0 rest with
      | some key => (.key key, key.length + 2)
      | none => (.unclosed, rest.length + 1)
  | _ => (.absent, 0)

def isFlag (codePoint : CodePoint) : Bool :=
  codePoint == .scalar '-' || codePoint == .scalar '+' ||
    codePoint == .scalar ' ' || codePoint == .scalar '#' ||
    codePoint == .scalar '0'

/-- The width at the beginning of a text and its length. -/
def readSize : Text → SizePart × Nat
  | .scalar '*' :: _ => (.star, 1)
  | text =>
      let digits := text.takeWhile isDigit
      if digits.isEmpty then (.absent, 0) else (.digits digits, digits.length)

/-- The precision at the beginning of a text and its length; a point alone
is a precision of zero. -/
def readPrecision : Text → SizePart × Nat
  | .scalar '.' :: rest =>
      match readSize rest with
      | (.absent, _) => (.digits [], 1)
      | (size, length) => (size, length + 1)
  | _ => (.absent, 0)

/-- A letter that once gave the size of a number. -/
def isSizeLetter (codePoint : CodePoint) : Bool :=
  codePoint == .scalar 'h' || codePoint == .scalar 'l' ||
    codePoint == .scalar 'L'

/-- Read a directive behind its percent sign, which stands before `index`,
with the number of code points that belong to it. -/
def read (index : Nat) (text : Text) : Directive × Nat :=
  let (key, keyLength) := readKey text
  let afterKey := text.drop keyLength
  let flags := afterKey.takeWhile isFlag
  let afterFlags := afterKey.drop flags.length
  let (width, widthLength) := readSize afterFlags
  let afterWidth := afterFlags.drop widthLength
  let (precision, precisionLength) := readPrecision afterWidth
  let afterPrecision := afterWidth.drop precisionLength
  let sizeLength :=
    match afterPrecision with
    | codePoint :: _ => if isSizeLetter codePoint then 1 else 0
    | [] => 0
  let letter := (afterPrecision.drop sizeLength).head?
  let before := keyLength + flags.length + widthLength + precisionLength +
    sizeLength
  (⟨key, flags, width, precision, letter, index + before⟩,
    before + letter.toList.length)

end Directive

/-- The parts of a message from a position on, the first `covered` code
points of which belong to a directive before them.  Two percent signs in a row
stand for one. -/
def messagePartsFrom (position covered : Nat) : Text → List MessagePart
  | [] => []
  | codePoint :: rest =>
      match covered with
      | covered + 1 => messagePartsFrom (position + 1) covered rest
      | 0 =>
          if codePoint ≠ .scalar '%' then
            .plain codePoint :: messagePartsFrom (position + 1) 0 rest
          else if rest.head? = some (.scalar '%') then
            .plain codePoint :: messagePartsFrom (position + 1) 1 rest
          else
            let (directive, length) := Directive.read (position + 1) rest
            .directive directive ::
              messagePartsFrom (position + 1) length rest

def messageParts (message : Text) : List MessagePart :=
  messagePartsFrom 0 0 message

/-- The arguments that the next directives take.  A mapping, and the value
under a key of it, is there for one directive. -/
structure Supply where
  mapping : Option (List (Value × Value))
  pending : List Value

/-- A width or precision with its number; a negative width asks for the left
side. -/
structure Layout where
  flags : List CodePoint
  width : Option Nat
  precision : Option Nat

namespace Layout

/-- A flag is set. -/
def has (layout : Layout) (flag : Char) : Bool :=
  layout.flags.contains (.scalar flag)

/-- Put a text into its width, its sign in front of the filling zeros or
behind the filling spaces, and likewise the two characters that announce a
base. -/
def place (layout : Layout) (numeric announced : Bool) (text : Text) :
    Text :=
  let fill : CodePoint :=
    if numeric && layout.has '0' then .scalar '0' else .scalar ' '
  let (sign, unsigned) : Text × Text :=
    if numeric then
      match text with
      | .scalar '-' :: rest => ([.scalar '-'], rest)
      | .scalar '+' :: rest => ([.scalar '+'], rest)
      | text =>
          if layout.has '+' then ([.scalar '+'], text)
          else if layout.has ' ' then ([.scalar ' '], text)
          else ([], text)
    else
      ([], text)
  let lead := sign ++ (if announced then unsigned.take 2 else [])
  let body := if announced then unsigned.drop 2 else unsigned
  let missing := layout.width.getD 0 - (lead.length + body.length)
  if layout.has '-' then
    lead ++ body ++ List.replicate missing (.scalar ' ')
  else if fill = .scalar '0' then
    lead ++ List.replicate missing fill ++ body
  else
    List.replicate missing fill ++ lead ++ body

end Layout

/-- Formatting that takes arguments from a supply. -/
abbrev Formatting (α : Type) := StateT Supply (Except FormatFault) α

namespace Formatting

/-- Take the next argument. -/
def next : Formatting Value := do
  let supply ← get
  match supply.pending with
  | [] => throw .tooFewArguments
  | value :: pending =>
      set { supply with pending := pending }
      return value

/-- Select the value under a key as the next argument. -/
def select : KeyPart → Formatting Unit
  | .absent => return ()
  | part => do
      let supply ← get
      match supply.mapping, part with
      | none, _ => throw .mappingRequired
      | some pairs, .key key =>
          match Value.lookup? key pairs with
          | none => throw (.missingKey key)
          | some value => set { supply with pending := [value] }
      | some _, _ => throw .incompleteKey

/-- The next argument as an integer below a limit in magnitude. -/
def nextSize (limit : Nat) (target : Text) : Formatting Int := do
  let size : Int ←
    match ← next with
    | .int whole => pure whole
    | .bool truth => pure (if truth then 1 else 0)
    | _ => throw .starNotAnInteger
  if limit ≤ size.natAbs then
    throw (.sizeTooLarge target)
  return size

/-- The width of a directive; a negative one asks for the left side. -/
def width (flags : List CodePoint) :
    SizePart → Formatting (List CodePoint × Option Nat)
  | .absent => return (flags, none)
  | .digits digits => do
      let width := Directive.numberOf digits
      if raise 2 63 ≤ width then
        throw .widthTooBig
      return (flags, some width)
  | .star => do
      let width ← nextSize (raise 2 63) "ssize_t"
      return (if width < 0 then .scalar '-' :: flags else flags,
        some width.natAbs)

/-- The precision of a directive; a negative one counts as zero. -/
def precision : SizePart → Formatting (Option Nat)
  | .absent => return none
  | .digits digits => do
      let precision := Directive.numberOf digits
      if raise 2 31 ≤ precision then
        throw .precisionTooBig
      return some precision
  | .star => do
      let precision ← nextSize (raise 2 31) "int"
      return some precision.toNat

/-- A text that may be unspellable. -/
def spelled (text : Except ShowFault Text) : Formatting Text :=
  match text with
  | .ok text => return text
  | .error fault => throw (.unspellable fault)

/-- A text cut to a precision. -/
def cut (precision : Option Nat) (text : Text) : Text :=
  match precision with
  | none => text
  | some precision => text.take precision

/-- The integer part of a number of any kind. -/
def wholeOf (letter : CodePoint) : Value → Formatting Int
  | .int whole => return whole
  | .bool truth => return (if truth then 1 else 0)
  | .float .notANumber => throw (.notANumberAsInteger "float NaN")
  | .float (.infinite _) => throw (.infinityAsInteger "float infinity")
  | .float number => return (number.truncated?).getD 0
  | .decimal (.notANumber ..) => throw (.notANumberAsInteger "NaN")
  | .decimal (.infinite _) => throw (.infinityAsInteger "Infinity")
  | .decimal number => return (number.truncated?).getD 0
  | value => throw (.realRequired letter value.qualifiedKind)

/-- A value that is an integer already. -/
def exactWholeOf (letter : CodePoint) : Value → Formatting Int
  | .int whole => return whole
  | .bool truth => return (if truth then 1 else 0)
  | value => throw (.integerRequired letter value.qualifiedKind)

/-- A number of any kind as a double. -/
def binary64Of : Value → Formatting Binary64
  | .float number => return number
  | .decimal number =>
      match number with
      | .notANumber _ true _ =>
          throw .signalingAsReal
      | number => return number.toBinary64
  | .int whole =>
      match Binary64.ofInt whole with
      | .infinite _ => throw .integerTooLargeForReal
      | number => return number
  | .bool truth => return .ofInt (if truth then 1 else 0)
  | value => throw (.notAReal value.qualifiedKind)

/-- ASCII letters among digits in upper case. -/
def upperDigits (digits : Text) : Text :=
  digits.map fun
    | .scalar char => .scalar char.toUpper
    | other => other

/-- Digits with at least as many of them as a precision asks for, behind a
sign and an announcement. -/
def withPrecision (precision : Option Nat) (negative : Bool)
    (announcement digits : Text) : Text :=
  (if negative then [.scalar '-'] else []) ++ announcement ++
    Text.padLeft (precision.getD 0) (.scalar '0') digits

/-- An integer in a directive. -/
def whole (layout : Layout) (letter : Char) (number : Int) :
    Formatting Text := do
  let inBase (base : Nat) : Text :=
    Text.ofChars (Nat.toDigits base number.natAbs)
  let alternate := layout.has '#'
  let negative := decide (number < 0)
  match letter with
  | 'o' =>
      return layout.place true alternate (withPrecision layout.precision
        negative (if alternate then "0o" else []) (inBase 8))
  | 'x' =>
      return layout.place true alternate (withPrecision layout.precision
        negative (if alternate then "0x" else []) (inBase 16))
  | 'X' =>
      return layout.place true alternate (withPrecision layout.precision
        negative (if alternate then "0X" else []) (upperDigits (inBase 16)))
  | _ =>
      let digits ← spelled (showWhole number.natAbs)
      return layout.place true false
        (withPrecision layout.precision negative [] digits)

/-- A double in a directive. -/
def real (layout : Layout) (letter : Char) (number : Binary64) : Text :=
  let notationKind : FixedNotation :=
    match letter.toLower with
    | 'e' => .scientific
    | 'g' => .general
    | _ => .places
  let magnitude := number.toFixed notationKind
    (layout.precision.getD 6) (layout.has '#')
  let magnitude := if letter.isUpper then upperDigits magnitude else magnitude
  layout.place true false
    (if number.isNegative then .scalar '-' :: magnitude else magnitude)

/-- A single character in a directive. -/
def character (layout : Layout) (value : Value) : Formatting Text := do
  match value with
  | .text [codePoint] => return layout.place false false [codePoint]
  | .int number => ofNumber number
  | .bool truth => ofNumber (if truth then 1 else 0)
  | _ => throw .notACharacter
where
  /-- The character of a number. -/
  ofNumber (number : Int) : Formatting Text := do
    match number, CodePoint.ofNat? number.toNat with
    | .ofNat _, some codePoint =>
        return layout.place false false [codePoint]
    | _, _ => throw .characterOutOfRange

/-- Put an argument in the place of a directive. -/
def directive (directive : Directive) : Formatting Text := do
  select directive.key
  let (flags, width) ← width directive.flags directive.width
  let precision ← precision directive.precision
  let layout : Layout := ⟨flags, width, precision⟩
  match directive.letter with
  | none => throw .incomplete
  | some letter => do
      let value ← next
      match letter with
      | .scalar 's' =>
          return layout.place false false
            (cut precision (← spelled (value.display Value.shownRoom)))
      | .scalar 'r' =>
          return layout.place false false
            (cut precision (← spelled (value.quoted Value.shownRoom)))
      | .scalar 'a' =>
          return layout.place false false
            (cut precision
              (← spelled (value.quoted Value.shownRoom)).toAscii)
      | .scalar 'c' => character layout value
      | .scalar char =>
          if char ∈ ['d', 'i', 'u'] then
            whole layout char (← wholeOf letter value)
          else if char ∈ ['o', 'x', 'X'] then
            whole layout char (← exactWholeOf letter value)
          else if char ∈ ['e', 'E', 'f', 'F', 'g', 'G'] then
            return real layout char (← binary64Of value)
          else
            throw (.unsupported letter directive.index)
      | _ => throw (.unsupported letter directive.index)

/-- Put arguments in the places of the directives of a message. -/
def parts : List MessagePart → Formatting Text
  | [] => return []
  | .plain codePoint :: rest => do
      return codePoint :: (← parts rest)
  | .directive found :: rest => do
      let text ← directive found
      return text ++ (← parts rest)

end Formatting

/-- A message with its arguments in place.  A sequence of arguments has to
be used up; without any argument the message stands as it is. -/
def formatMessage (message : Text) :
    Arguments → Except FormatFault Text
  | .sequence [] => .ok message
  | .sequence values => do
      let (text, supply) ←
        (Formatting.parts (messageParts message)).run ⟨none, values⟩
      if supply.pending.isEmpty then
        return text
      else
        throw .tooManyArguments
  | .mapping pairs => do
      let (text, _) ← (Formatting.parts (messageParts message)).run
        ⟨some pairs, [.map pairs]⟩
      return text

end VestingContract
