import VestingContract.Yaml.QuotedScalar

/-!
# Plain scalars

Scalars without quotes.  They end at a colon with a blank behind it, at a
comment and, inside brackets, at the marks of the brackets; further lines
belong to them as long as they are indented.
-/

namespace VestingContract
namespace Yaml

/-- A bracket or a comma. -/
def isFlowMark (char : Char) : Bool :=
  char == ',' || char == '[' || char == ']' || char == '\x7b' ||
    char == '\x7d'

/-- A character begins a plain scalar, judged with the one behind it. -/
def startsPlain (inFlow : Bool) (cursor : Cursor) : Bool :=
  let char := cursor.peek
  let isIndicator := isBlankOrEnd char || isFlowMark char ||
    "-?:#&*!|>\x27\"%@\x60".toList.contains char
  !isIndicator ||
    (!isBlankOrEnd (cursor.peekAt 1) &&
      (char == '-' || (!inFlow && (char == '?' || char == ':'))))

/-- The characters of a plain scalar up to a blank or an end. -/
def plainRun (inFlow : Bool) : List Char → List Char
  | [] => []
  | char :: rest =>
      let next := rest.head?.getD '\x00'
      if isBlankOrEnd char ||
          (char == ':' &&
            (isBlankOrEnd next || (inFlow && isFlowMark next))) ||
          (inFlow && (isFlowMark char || char == '?')) then
        []
      else
        char :: plainRun inFlow rest

/-- The line ends between two lines of a plain scalar, and the cursor behind
them; nothing if a separator of documents follows one of them.  The last
argument bounds the number of characters. -/
def plainBreaks (cursor : Cursor) (breaks : List Char) :
    Nat → Option (List Char) × Cursor
  | 0 => (some breaks, cursor)
  | bound + 1 =>
      if cursor.peek = ' ' then
        plainBreaks cursor.next breaks bound
      else if isBreak cursor.peek then
        let (found, cursor) := cursor.lineBreak
        if cursor.atSeparator then
          (none, cursor)
        else
          plainBreaks cursor (breaks ++ found) bound
      else
        (some breaks, cursor)

/-- What stands between two runs of a plain scalar. -/
structure PlainGap where
  joint : List Char
  brokeLine : Bool
  cursor : Cursor

/-- The spaces or line ends behind a run of a plain scalar. -/
def plainGap (cursor : Cursor) : PlainGap :=
  let spaces := cursor.span (· == ' ')
  let cursor := cursor.skipSpaces
  if isBreak cursor.peek then
    let (first, cursor) := cursor.lineBreak
    if cursor.atSeparator then
      ⟨[], true, cursor⟩
    else
      match plainBreaks cursor [] (cursor.rest.length + 1) with
      | (none, cursor) => ⟨[], true, cursor⟩
      | (some breaks, cursor) =>
          let lead : List Char :=
            if first != ['\n'] then first
            else if breaks.isEmpty then [' ']
            else []
          ⟨lead ++ breaks, true, cursor⟩
  else
    ⟨spaces, false, cursor⟩

/-- A plain scalar with the cursor behind it; `allowsKey` holds if a key may
begin there. -/
structure PlainScalar where
  content : List Char
  allowsKey : Bool
  cursor : Cursor

/-- The runs of a plain scalar from the cursor on, behind what has been
gathered so far.  The last argument bounds their number. -/
def plainRuns (inFlow : Bool) (indentation : Int) (cursor : Cursor)
    (gathered joint : List Char) (allowsKey : Bool) : Nat → PlainScalar
  | 0 => ⟨gathered, allowsKey, cursor⟩
  | bound + 1 =>
      let run := if cursor.peek = '#' then [] else plainRun inFlow cursor.rest
      if run.isEmpty then
        ⟨gathered, allowsKey, cursor⟩
      else
        let gathered := gathered ++ joint ++ run
        let gap := plainGap (cursor.forward run.length)
        let cursor := gap.cursor
        if gap.joint.isEmpty || cursor.peek == '#' ||
            (!inFlow && (cursor.column : Int) < indentation) then
          ⟨gathered, gap.brokeLine, cursor⟩
        else
          plainRuns inFlow indentation cursor gathered gap.joint gap.brokeLine
            bound

/-- The plain scalar at the cursor.  Outside brackets its further lines are
indented by more than `indent`. -/
def plainScalar (inFlow : Bool) (indent : Int) (cursor : Cursor) :
    PlainScalar :=
  plainRuns inFlow (indent + 1) cursor [] [] false (cursor.rest.length + 1)

end Yaml
end VestingContract
