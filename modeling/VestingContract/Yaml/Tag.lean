import VestingContract.Yaml.Timestamp

/-!
# Tags of YAML nodes

The kinds of the standard schema, and the kind that the content of an untagged
scalar stands for: the spellings of null, truth values, integers, floating
point numbers and times.
-/

namespace VestingContract
namespace Yaml

/-- The kind of a node. -/
inductive Tag where
  | null
  | bool
  | int
  | float
  | binary
  | timestamp
  | omap
  | pairs
  | set
  | str
  | seq
  | map
  | merge
  | value
  | unknown
  deriving DecidableEq, Repr, Inhabited

namespace Tag

/-- The text that the names of the standard kinds begin with. -/
def standardLead : Text := "tag:yaml.org,2002:"

/-- The names of the standard kinds. -/
def names : List (Text × Tag) :=
  [("null", null), ("bool", bool), ("int", int), ("float", float),
    ("binary", binary), ("timestamp", timestamp), ("omap", omap),
    ("pairs", pairs), ("set", set), ("str", str), ("seq", seq),
    ("map", map), ("merge", merge), ("value", value)]

/-- The kind of a written tag. -/
def ofText (text : Text) : Tag :=
  if standardLead.isPrefixOf text then
    (names.lookup (text.drop standardLead.length)).getD unknown
  else
    unknown

def nullWords : List (List Char) :=
  ["~", "null", "Null", "NULL", ""].map String.toList

def truthWords : List (List Char) :=
  ["yes", "Yes", "YES", "no", "No", "NO", "true", "True", "TRUE", "false",
    "False", "FALSE", "on", "On", "ON", "off", "Off", "OFF"].map
      String.toList

/-- A digit or an underscore. -/
def isLooseDigit (char : Char) : Bool :=
  Json.isDigit char || char == '_'

/-- Characters without a sign in front of them. -/
def unsigned : List Char → List Char
  | '+' :: rest => rest
  | '-' :: rest => rest
  | chars => chars

/-- Groups of at most two digits below sixty, each behind a colon, and what
follows them. -/
def sexagesimalGroups : List Char → Bool × List Char
  | ':' :: first :: second :: rest =>
      if '0' ≤ first && first ≤ '5' && Json.isDigit second then
        (true, (sexagesimalGroups rest).2)
      else if Json.isDigit first then
        (true, (sexagesimalGroups (second :: rest)).2)
      else
        (false, ':' :: first :: second :: rest)
  | ':' :: [digit] =>
      if Json.isDigit digit then (true, []) else (false, [':', digit])
  | chars => (false, chars)

/-- An unsigned integer: binary, octal, decimal, hexadecimal, or in base
sixty. -/
def isUnsignedInteger (chars : List Char) : Bool :=
  match chars with
  | '0' :: 'b' :: digits =>
      !digits.isEmpty &&
        digits.all fun char => char == '0' || char == '1' || char == '_'
  | '0' :: 'x' :: digits =>
      !digits.isEmpty &&
        digits.all fun char =>
          char == '_' || (Json.hexValue? char).isSome
  | ['0'] => true
  | '0' :: digits =>
      digits.all fun char => ('0' ≤ char && char ≤ '7') || char == '_'
  | first :: rest =>
      if Json.isDigit first then
        let rest := rest.dropWhile isLooseDigit
        rest.isEmpty || sexagesimalGroups rest == (true, [])
      else
        false
  | [] => false

/-- An exponent with its sign and at least one digit, or nothing. -/
def isExponentOrNothing : List Char → Bool
  | [] => true
  | letter :: sign :: digits =>
      (letter == 'e' || letter == 'E') && (sign == '+' || sign == '-') &&
        !digits.isEmpty && digits.all Json.isDigit
  | _ => false

/-- The spellings of infinity without a sign. -/
def infinityWords : List (List Char) :=
  [".inf", ".Inf", ".INF"].map String.toList

/-- The spellings of what is not a number. -/
def notANumberWords : List (List Char) :=
  [".nan", ".NaN", ".NAN"].map String.toList

/-- A floating point number: decimal with a point, in base sixty with a
point, infinity, or not a number. -/
def isFloat (chars : List Char) : Bool :=
  let body := unsigned chars
  let ofDigits :=
    match body with
    | first :: _ =>
        if Json.isDigit first then
          let rest := body.dropWhile isLooseDigit
          match rest with
          | '.' :: rest => isExponentOrNothing (rest.dropWhile isLooseDigit)
          | rest =>
              match sexagesimalGroups rest with
              | (true, '.' :: rest) => rest.all isLooseDigit
              | _ => false
        else
          false
    | [] => false
  let ofPoint :=
    match chars with
    | '.' :: first :: rest =>
        Json.isDigit first &&
          isExponentOrNothing (rest.dropWhile isLooseDigit)
    | _ => false
  ofDigits || ofPoint || infinityWords.contains body ||
    notANumberWords.contains chars

/-- The kind of a scalar by its content. -/
def implicitOfChars (content : List Char) : Tag :=
  let chars :=
    if content.getLast? = some '\n' ∧ content ≠ ['\n'] then
      content.dropLast
    else
      content
  if truthWords.contains chars then bool
  else if isFloat chars then float
  else if isUnsignedInteger (unsigned chars) then int
  else if chars = "<<".toList then merge
  else if nullWords.contains chars then null
  else if Timestamp.isImplicit content then timestamp
  else if chars = ['='] then value
  else if [['!'], ['&'], ['*']].contains chars then unknown
  else str

/-- The kind of a scalar by its content, which may hold lone surrogates. -/
def implicit (content : Text) : Tag :=
  match content.toChars? with
  | some chars => implicitOfChars chars
  | none => str

end Tag
end Yaml
end VestingContract
