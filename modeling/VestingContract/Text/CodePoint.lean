/-!
# Texts of code points

A document may spell half of a surrogate pair on its own, and the programs
that exchange such documents keep it.  A text is therefore a list of code
points, of which the scalar values are the characters and the remaining ones
are lone surrogates.
-/

namespace VestingContract

/-- A Unicode code point: a character or a surrogate that stands alone. -/
inductive CodePoint where
  | scalar (char : Char)
  | surrogate (offset : Fin 2048)
  deriving DecidableEq, Repr

/-- A sequence of code points. -/
abbrev Text := List CodePoint

namespace CodePoint

/-- The number that the standard assigns to a code point. -/
def value : CodePoint → Nat
  | scalar char => char.toNat
  | surrogate offset => 0xD800 + offset.val

/-- The code point of a number below the end of the code space. -/
def ofNat? (number : Nat) : Option CodePoint :=
  if surrogateRange : 0xD800 ≤ number ∧ number < 0xE000 then
    some (surrogate ⟨number - 0xD800, by omega⟩)
  else if number < 0x110000 then
    some (scalar (Char.ofNat number))
  else
    none

/-- The first half of a pair stands below `DC00`. -/
def isLeadingSurrogate : CodePoint → Bool
  | scalar _ => false
  | surrogate offset => offset.val < 1024

/-- The second half of a pair stands from `DC00` on. -/
def isTrailingSurrogate : CodePoint → Bool
  | scalar _ => false
  | surrogate offset => 1024 ≤ offset.val

/-- The character that two halves of a surrogate pair stand for. -/
def ofPair (leading trailing : CodePoint) : CodePoint :=
  scalar (Char.ofNat
    (0x10000 + (leading.value - 0xD800) * 1024 + (trailing.value - 0xDC00)))

instance : Coe Char CodePoint := ⟨scalar⟩

instance : Inhabited CodePoint := ⟨scalar ' '⟩

end CodePoint

namespace Text

instance instLawfulBEq : LawfulBEq Text :=
  inferInstance

def ofChars (chars : List Char) : Text :=
  chars.map .scalar

def ofString (string : String) : Text :=
  ofChars string.toList

instance : Coe String Text := ⟨ofString⟩

/-- The characters of a text without lone surrogates. -/
def toChars? (text : Text) : Option (List Char) :=
  text.mapM fun
    | .scalar char => some char
    | .surrogate _ => none

@[simp]
theorem toChars?_ofChars (chars : List Char) :
    toChars? (ofChars chars) = some chars := by
  induction chars with
  | nil => rfl
  | cons char chars inductionHypothesis =>
      simp only [toChars?, ofChars, List.map_cons, List.mapM_cons] at *
      simp [inductionHypothesis]

/-- A text joined from parts with a separator between neighbours. -/
def join (separator : Text) (parts : List Text) : Text :=
  List.intercalate separator parts

/-- A text filled up on the right to a width. -/
def padRight (width : Nat) (fill : CodePoint) (text : Text) : Text :=
  text ++ List.replicate (width - text.length) fill

/-- A text filled up on the left to a width. -/
def padLeft (width : Nat) (fill : CodePoint) (text : Text) : Text :=
  List.replicate (width - text.length) fill ++ text

def zeros (count : Nat) : Text :=
  List.replicate count (.scalar '0')

/-- The digits of a natural number, the most significant one first. -/
def ofNat (number : Nat) : Text :=
  ofChars (Nat.toDigits 10 number)

/-- An integer with a minus sign in front of a negative one. -/
def ofInt : Int → Text
  | .ofNat number => ofNat number
  | .negSucc number => .scalar '-' :: ofNat (number + 1)

/-- A natural number in lower-case hexadecimal digits, filled up with zeros. -/
def ofHex (width number : Nat) : Text :=
  padLeft width (.scalar '0') (ofChars (Nat.toDigits 16 number))

/-- The parts of a text between the occurrences of a code point. -/
def splitOn (separator : CodePoint) : Text → List Text
  | [] => [[]]
  | head :: tail =>
      if head = separator then
        [] :: splitOn separator tail
      else
        match splitOn separator tail with
        | [] => [[head]]
        | part :: parts => (head :: part) :: parts

end Text
end VestingContract
