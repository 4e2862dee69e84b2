import VestingContract.Yaml.BlockScalar
import VestingContract.Yaml.PlainScalar
import VestingContract.Yaml.TagName

/-!
# Tokens of a document

The tokens of a document in order.  Indentation opens and closes blocks, and
a scalar turns out to be a key when the colon behind it is found, so the marks
in front of a key are put in afterwards.  Where the document breaks off with a
fault, the tokens that can be told before it are kept.
-/

namespace VestingContract
namespace Yaml

/-- A place where a key may have begun: the number of its first token, its
position, and whether it has to be a key. -/
structure PossibleKey where
  tokenNumber : Nat
  required : Bool
  index : Nat
  line : Nat
  column : Nat

/-- The state between two tokens.  The tokens are kept with the last one
first; `level` is the number of open brackets, and the possible keys are kept
by that number. -/
structure Scanner where
  cursor : Cursor
  level : Nat
  indent : Int
  indents : List Int
  allowsKey : Bool
  keys : List (Nat × PossibleKey)
  tokens : List Token
  ended : Bool

namespace Scanner

/-- The state before the first token. -/
def start (document : List Char) : Scanner where
  cursor := .start document
  level := 0
  indent := -1
  indents := []
  allowsKey := true
  keys := []
  tokens := []
  ended := false

/-- No bracket is open. -/
def inBlock (scanner : Scanner) : Bool := scanner.level == 0

/-- A token more. -/
def push (scanner : Scanner) (token : Token) : Scanner :=
  { scanner with tokens := token :: scanner.tokens }

/-- A token in front of the one with a number. -/
def insertAt (scanner : Scanner) (number : Nat) (token : Token) : Scanner :=
  let later := scanner.tokens.length - number
  { scanner with tokens :=
      scanner.tokens.take later ++ token :: scanner.tokens.drop later }

/-- The state behind some characters. -/
def advance (scanner : Scanner) (count : Nat) : Scanner :=
  { scanner with cursor := scanner.cursor.forward count }

/-- A key has to stay on its line and within 1024 characters.  What can no
longer be a key is forgotten, unless it has to be one. -/
def dropStaleKeys (scanner : Scanner) : Except Fault Scanner :=
  let isStale (key : PossibleKey) : Bool :=
    key.line != scanner.cursor.line ||
      key.index + 1024 < scanner.cursor.index
  if scanner.keys.any fun key => isStale key.2 && key.2.required then
    .error .malformed
  else
    .ok { scanner with
      keys := scanner.keys.filter fun key => !isStale key.2 }

/-- Forget the possible key among the open brackets, unless it has to be
one. -/
def dropKey (scanner : Scanner) : Except Fault Scanner :=
  match scanner.keys.lookup scanner.level with
  | some key =>
      if key.required then
        .error .malformed
      else
        .ok { scanner with
          keys := scanner.keys.filter (·.1 != scanner.level) }
  | none => .ok scanner

/-- Remember that a key may begin here. -/
def saveKey (scanner : Scanner) : Except Fault Scanner := do
  if scanner.allowsKey then
    let required := scanner.inBlock &&
      scanner.indent == scanner.cursor.column
    let scanner ← scanner.dropKey
    let key : PossibleKey :=
      { tokenNumber := scanner.tokens.length
        required := required
        index := scanner.cursor.index
        line := scanner.cursor.line
        column := scanner.cursor.column }
    return { scanner with keys := (scanner.level, key) :: scanner.keys }
  else
    return scanner

/-- Close the blocks that are indented by more than a column. -/
def unwind (scanner : Scanner) (column : Int) : Scanner :=
  if scanner.inBlock then
    close scanner scanner.indents
  else
    scanner
where
  /-- Close blocks from the innermost one outward. -/
  close (scanner : Scanner) : List Int → Scanner
    | [] => scanner
    | outer :: indents =>
        if column < scanner.indent then
          close { scanner.push .blockEnd with
            indent := outer
            indents := indents } indents
        else
          scanner

/-- Open a block at a column that is indented by more than the blocks
before. -/
def addIndent (scanner : Scanner) (column : Nat) : Bool × Scanner :=
  if scanner.indent < column then
    (true, { scanner with
      indents := scanner.indent :: scanner.indents
      indent := column })
  else
    (false, scanner)

/-- The state at the next token: behind spaces, comments and line ends.  A
line end outside brackets allows a key.  The last argument bounds the number
of lines. -/
def skipToToken (scanner : Scanner) : Nat → Scanner
  | 0 => scanner
  | bound + 1 =>
      let cursor := scanner.cursor.skipSpaces.skipComment
      if isBreak cursor.peek then
        skipToToken
          { scanner with
            cursor := cursor.lineBreak.2
            allowsKey := scanner.allowsKey || scanner.inBlock }
          bound
      else
        { scanner with cursor := cursor }

def endStream (scanner : Scanner) : Except Fault Scanner := do
  let scanner ← (scanner.unwind (-1)).dropKey
  return { scanner.push .streamEnd with
    allowsKey := false
    keys := []
    ended := true }

/-- A token at the beginning of a line that closes all blocks. -/
def documentToken (scanner : Scanner)
    (read : Cursor → Except Fault (Token × Cursor)) :
    Except Fault Scanner := do
  let scanner ← (scanner.unwind (-1)).dropKey
  let (token, cursor) ← read scanner.cursor
  return { scanner.push token with
    allowsKey := false
    cursor := cursor }

/-- A mark between documents. -/
def documentMark (scanner : Scanner) (token : Token) :
    Except Fault Scanner :=
  scanner.documentToken fun cursor => .ok (token, cursor.forward 3)

def openBracket (scanner : Scanner) (token : Token) :
    Except Fault Scanner := do
  let scanner ← scanner.saveKey
  return { (scanner.push token).advance 1 with
    level := scanner.level + 1
    allowsKey := true }

/-- A closing bracket.  One that nothing opened ends the document. -/
def closeBracket (scanner : Scanner) (token : Token) :
    Except Fault Scanner := do
  if scanner.inBlock then
    throw .malformed
  let scanner ← scanner.dropKey
  return { (scanner.push token).advance 1 with
    level := scanner.level - 1
    allowsKey := false }

/-- A comma between brackets. -/
def flowEntry (scanner : Scanner) : Except Fault Scanner := do
  let scanner ← scanner.dropKey
  return { (scanner.push .flowEntry).advance 1 with allowsKey := true }

/-- The indicator of an item or a key of a block, which may open the
block. -/
def blockIndicator (scanner : Scanner) (opening token : Token)
    (allowsKey : Bool) : Except Fault Scanner := do
  let scanner ←
    if scanner.inBlock then
      if !scanner.allowsKey then
        throw .malformed
      match scanner.addIndent scanner.cursor.column with
      | (true, scanner) => pure (scanner.push opening)
      | (false, scanner) => pure scanner
    else
      pure scanner
  let scanner ← { scanner with allowsKey := allowsKey }.dropKey
  return (scanner.push token).advance 1

/-- The indicator of a value.  It makes a key of what began where a key may
have begun. -/
def valueIndicator (scanner : Scanner) : Except Fault Scanner := do
  match scanner.keys.lookup scanner.level with
  | some key =>
      let scanner := { scanner with
        keys := scanner.keys.filter (·.1 != scanner.level) }
      let scanner := scanner.insertAt key.tokenNumber .key
      let scanner :=
        if scanner.inBlock then
          match scanner.addIndent key.column with
          | (true, scanner) =>
              scanner.insertAt key.tokenNumber .blockMappingStart
          | (false, scanner) => scanner
        else
          scanner
      return { (scanner.push .value).advance 1 with allowsKey := false }
  | none =>
      scanner.blockIndicator .blockMappingStart .value scanner.inBlock

/-- A token that a key may begin with. -/
def keyToken (scanner : Scanner)
    (read : Cursor → Except Fault (Token × Cursor)) :
    Except Fault Scanner := do
  let scanner ← scanner.saveKey
  let (token, cursor) ← read scanner.cursor
  return { scanner.push token with
    allowsKey := false
    cursor := cursor }

def blockScalarToken (scanner : Scanner) : Except Fault Scanner := do
  let scanner ← { scanner with allowsKey := true }.dropKey
  let (content, cursor) ← blockScalar scanner.indent scanner.cursor
  return { scanner.push (.scalar content false) with cursor := cursor }

def plainToken (scanner : Scanner) : Except Fault Scanner := do
  let scanner ← scanner.saveKey
  let scalar := plainScalar (!scanner.inBlock) scanner.indent scanner.cursor
  return { scanner.push (.scalar (Text.ofChars scalar.content) true) with
    allowsKey := scalar.allowsKey
    cursor := scalar.cursor }

def tokenHere (scanner : Scanner) : Except Fault Scanner :=
  let cursor := scanner.cursor
  let char := cursor.peek
  let blankFollows := isBlankOrEnd (cursor.peekAt 1)
  let atMark (mark : Char) : Bool :=
    char == mark && cursor.column == 0 && cursor.atSeparator
  if char = '\x00' then
    scanner.endStream
  else if char = '%' ∧ cursor.column = 0 then
    scanner.documentToken directiveToken
  else if atMark '-' then
    scanner.documentMark .documentStart
  else if atMark '.' then
    scanner.documentMark .documentEnd
  else if char = '[' then
    scanner.openBracket .flowSequenceStart
  else if char = '\x7b' then
    scanner.openBracket .flowMappingStart
  else if char = ']' then
    scanner.closeBracket .flowSequenceEnd
  else if char = '\x7d' then
    scanner.closeBracket .flowMappingEnd
  else if char = ',' then
    scanner.flowEntry
  else if char = '-' ∧ blankFollows then
    scanner.blockIndicator .blockSequenceStart .blockEntry true
  else if char = '?' ∧ (!scanner.inBlock || blankFollows) then
    scanner.blockIndicator .blockMappingStart .key scanner.inBlock
  else if char = ':' ∧ (!scanner.inBlock || blankFollows) then
    scanner.valueIndicator
  else if char = '*' then
    scanner.keyToken fun cursor => do
      let (found, cursor) ← anchorName cursor
      return (.alias found, cursor)
  else if char = '&' then
    scanner.keyToken fun cursor => do
      let (found, cursor) ← anchorName cursor
      return (.anchor found, cursor)
  else if char = '!' then
    scanner.keyToken tagToken
  else if (char = '|' ∨ char = '>') ∧ scanner.inBlock then
    scanner.blockScalarToken
  else if char = '\x27' ∨ char = '"' then
    scanner.keyToken fun cursor => do
      let (content, cursor) ← quotedScalar cursor
      return (.scalar content false, cursor)
  else if startsPlain (!scanner.inBlock) cursor then
    scanner.plainToken
  else
    .error .malformed

/-- Read one more token, with the marks that stand before it.  A byte order
mark may open the document. -/
def step (scanner : Scanner) : Except Fault Scanner := do
  let scanner :=
    if scanner.cursor.index = 0 && scanner.cursor.peek == '\uFEFF' then
      scanner.advance 1
    else
      scanner
  let scanner := scanner.skipToToken (scanner.cursor.rest.length + 1)
  let scanner ← scanner.dropStaleKeys
  (scanner.unwind scanner.cursor.column).tokenHere

/-- The tokens that can be told when the next one is faulty: those before
the first one that may still turn out to be a key. -/
def toldTokens (scanner : Scanner) : List Token :=
  let numbers := scanner.keys.map fun key => key.2.tokenNumber
  let count := numbers.foldl min scanner.tokens.length
  scanner.tokens.reverse.take count

/-- Read all tokens.  Where the next one takes characters that are not there,
`beyond` gives the fault that is met instead.  The last argument bounds the
number of tokens. -/
def run (beyond : Scanner → Option Fault) (scanner : Scanner) :
    Nat → List Token × Option Fault
  | 0 => (scanner.tokens.reverse, some .malformed)
  | bound + 1 =>
      if scanner.ended then
        (scanner.tokens.reverse, none)
      else
        match scanner.dropStaleKeys with
        | .error fault => (scanner.tokens.reverse, some fault)
        | .ok scanner =>
            match beyond scanner with
            | some fault => (scanner.toldTokens, some fault)
            | none =>
                match scanner.step with
                | .error fault => (scanner.toldTokens, some fault)
                | .ok scanner => run beyond scanner bound

end Scanner

/-- The tokens of a document, and the fault that cuts them off. -/
def tokensOf (beyond : Scanner → Option Fault) (document : List Char) :
    List Token × Option Fault :=
  (Scanner.start document).run beyond (document.length + 2)

end Yaml
end VestingContract
