import VestingContract.Dataset.Location
import VestingContract.Proofs.Number.Wholes

/-!
# Locations read back

A path is read from its end.  Characters are collected up to a mark, which
tells what they are: an opening bracket stands in front of a position, a point
in front of a name, and the beginning of the path in front of its first name.
In this way each location is found again whose names are not empty and hold
neither points nor brackets, so that no two such locations have one path.
-/

namespace VestingContract

section Positions

/-- The integer that digits behind a minus sign or without one stand for. -/
def positionOf (spelling : Text) : Int :=
  let (negative, digits) := splitSign (spelling.map CodePoint.toNumberChar)
  if negative then -(ofDigits 10 digits : Int) else ofDigits 10 digits

theorem positionOf_ofInt (position : Int) :
    positionOf (Text.ofInt position) = position := by
  cases position with
  | ofNat number =>
      have split := splitSign_of_isDigits (isDigits_toDigits number)
      simp only [positionOf, Text.ofInt, map_toNumberChar_ofNat, split,
        ofDigits_toDigits]
      rfl
  | negSucc number =>
      have split : splitSign ((Text.ofInt (.negSucc number)).map
          CodePoint.toNumberChar) = (true, Nat.toDigits 10 (number + 1)) := by
        rw [Text.ofInt, List.map_cons, map_toNumberChar_ofNat]
        rfl
      simp only [positionOf, split, ofDigits_toDigits]
      rfl

end Positions

/-- The code points that a path sets between the steps of a location. -/
def pathMarks : Text := [.scalar '.', .scalar '[', .scalar ']']

/-- What has been read of a path from its end: the steps behind the last mark,
and the code points in front of it, which belong to a step yet to come. -/
structure PathReading where
  pending : Text
  steps : List LocationPart

namespace PathReading

/-- Read one code point more. -/
def next (codePoint : CodePoint) (reading : PathReading) : PathReading :=
  match codePoint with
  | .scalar ']' => ⟨[], reading.steps⟩
  | .scalar '[' =>
      ⟨[], .index (positionOf reading.pending) :: reading.steps⟩
  | .scalar '.' => ⟨[], .name reading.pending :: reading.steps⟩
  | codePoint => ⟨codePoint :: reading.pending, reading.steps⟩

/-- What is left at the beginning of a path is its first name. -/
def finish (reading : PathReading) : List LocationPart :=
  if reading.pending.isEmpty then reading.steps
  else .name reading.pending :: reading.steps

end PathReading

/-- The location of a path. -/
def locationOf (path : Text) : List LocationPart :=
  if path = "<top level>" then []
  else (path.foldr PathReading.next ⟨[], []⟩).finish

namespace LocationPart

/-- A step that a path shows: a position, or a name that is not empty and
holds no mark. -/
def IsReadable : LocationPart → Prop
  | index _ => True
  | flag _ => False
  | name content => content ≠ [] ∧ ∀ mark ∈ pathMarks, mark ∉ content

instance : DecidablePred IsReadable
  | index _ => .isTrue trivial
  | flag _ => .isFalse id
  | name _ => inferInstanceAs (Decidable (_ ∧ _))

/-- What a path shows of a step that is not the first one. -/
def laterText : LocationPart → Text
  | index position => "[" ++ Text.ofInt position ++ "]"
  | flag truth => "[" ++ displayedBool truth ++ "]"
  | name content => "." ++ content

theorem appendTo_of_ne_nil {before : Text} (nonempty : before ≠ [])
    (part : LocationPart) :
    part.appendTo before = before ++ part.laterText := by
  cases part with
  | index position => simp [appendTo, laterText]
  | flag truth => simp [appendTo, laterText]
  | name content => simp [appendTo, laterText, nonempty]

theorem laterText_ne_nil (part : LocationPart) : part.laterText ≠ [] := by
  cases part <;> exact List.cons_ne_nil _ _

theorem foldl_appendTo {before : Text} (nonempty : before ≠ [])
    (parts : List LocationPart) :
    parts.foldl appendTo before = before ++ parts.flatMap laterText := by
  induction parts generalizing before with
  | nil => rw [List.foldl_nil, List.flatMap_nil, List.append_nil]
  | cons part parts ih =>
      rw [List.foldl_cons, appendTo_of_ne_nil nonempty, List.flatMap_cons,
        ← List.append_assoc]
      exact ih (List.append_ne_nil_of_left_ne_nil nonempty _)

section Reading

open PathReading

theorem next_of_not_mem {codePoint : CodePoint}
    (noMark : codePoint ∉ pathMarks) (reading : PathReading) :
    next codePoint reading =
      ⟨codePoint :: reading.pending, reading.steps⟩ := by
  unfold next
  split <;> simp_all [pathMarks]

/-- Code points between marks are collected. -/
theorem foldr_next_of_forall {content : Text}
    (noMark : ∀ mark ∈ pathMarks, mark ∉ content) (reading : PathReading) :
    content.foldr next reading =
      ⟨content ++ reading.pending, reading.steps⟩ := by
  induction content with
  | nil => rfl
  | cons codePoint content ih =>
      have others : ∀ mark ∈ pathMarks, mark ∉ content := fun mark isMark =>
        List.not_mem_of_not_mem_cons (noMark mark isMark)
      have first : codePoint ∉ pathMarks := fun isMark =>
        noMark codePoint isMark List.mem_cons_self
      rw [List.foldr_cons, ih others, next_of_not_mem first, List.cons_append]

theorem not_mem_ofInt (position : Int) :
    ∀ mark ∈ pathMarks, mark ∉ Text.ofInt position := by
  have ofDigits : ∀ number, ∀ mark ∈ pathMarks, mark ∉ Text.ofNat number := by
    intro number mark isMark member
    obtain ⟨char, isDigit, rfl⟩ := List.mem_map.mp member
    have digit := (isDigits_toDigits number).2 char isDigit
    have noDigit : ∀ char, .scalar char ∈ pathMarks →
        Json.isDigit char = false := by
      simp [pathMarks, Json.isDigit]
    rw [noDigit char isMark] at digit
    cases digit
  intro mark isMark
  cases position with
  | ofNat number => exact ofDigits number mark isMark
  | negSucc number =>
      rw [Text.ofInt, List.mem_cons, not_or]
      refine ⟨?_, ofDigits (number + 1) mark isMark⟩
      rintro rfl
      exact absurd isMark (by decide)

/-- A step that is not the first one is read at its marks. -/
theorem foldr_next_laterText {part : LocationPart} (readable : part.IsReadable)
    (steps : List LocationPart) :
    part.laterText.foldr next ⟨[], steps⟩ = ⟨[], part :: steps⟩ := by
  cases part with
  | index position =>
      have collected := foldr_next_of_forall (not_mem_ofInt position)
        ⟨[], steps⟩
      have closed : next (.scalar ']') ⟨[], steps⟩ = ⟨[], steps⟩ := rfl
      have text : laterText (index position) =
          .scalar '[' :: (Text.ofInt position ++ [.scalar ']']) := rfl
      rw [text, List.foldr_cons, List.foldr_append, List.foldr_cons,
        List.foldr_nil, closed, collected, List.append_nil]
      simp only [next, positionOf_ofInt]
  | flag truth => cases readable
  | name content =>
      have text : laterText (name content) = .scalar '.' :: content := rfl
      rw [text, List.foldr_cons, foldr_next_of_forall readable.2,
        List.append_nil]
      rfl

theorem foldr_next_flatMap {parts : List LocationPart}
    (readable : ∀ part ∈ parts, part.IsReadable) :
    (parts.flatMap laterText).foldr next ⟨[], []⟩ = ⟨[], parts⟩ := by
  induction parts with
  | nil => rfl
  | cons part parts ih =>
      obtain ⟨first, others⟩ := List.forall_mem_cons.mp readable
      rw [List.flatMap_cons, List.foldr_append, ih others,
        foldr_next_laterText first]

/-- The steps of a location are found in the text that they add up to. -/
theorem finish_foldl_appendTo {parts : List LocationPart}
    (readable : ∀ part ∈ parts, part.IsReadable) :
    ((parts.foldl appendTo []).foldr next ⟨[], []⟩).finish = parts := by
  cases parts with
  | nil => rfl
  | cons part parts =>
      obtain ⟨first, others⟩ := List.forall_mem_cons.mp readable
      rw [List.foldl_cons]
      cases part with
      | index position =>
          have text : appendTo [] (index position) =
              (index position).laterText := rfl
          rw [text, foldl_appendTo (laterText_ne_nil _), List.foldr_append,
            foldr_next_flatMap others, foldr_next_laterText first]
          rfl
      | flag truth => cases first
      | name content =>
          have text : appendTo [] (name content) = content := rfl
          rw [text, foldl_appendTo first.1, List.foldr_append,
            foldr_next_flatMap others, foldr_next_of_forall first.2,
            List.append_nil, finish]
          simp [first.1]

end Reading

end LocationPart

section Paths

variable {location other : List LocationPart}

/-- A location that its path tells: its names show, and it does not begin with
the name that stands for the top of a dataset. -/
structure IsReadableLocation (location : List LocationPart) : Prop where
  parts : ∀ part ∈ location, part.IsReadable
  beginning : location.head? ≠ some (.name "<top level>")

theorem foldl_appendTo_ne_nil (readable : ∀ part ∈ location, part.IsReadable)
    (nonempty : location ≠ []) :
    location.foldl LocationPart.appendTo [] ≠ [] := by
  intro isNil
  have found := LocationPart.finish_foldl_appendTo readable
  rw [isNil] at found
  exact nonempty found.symm

/-- A location is found again in its path. -/
theorem locationOf_locationText (readable : IsReadableLocation location) :
    locationOf (locationText location) = location := by
  have found := LocationPart.finish_foldl_appendTo readable.parts
  by_cases isTop : location = []
  · subst isTop
    rfl
  · have path : locationText location =
        location.foldl LocationPart.appendTo [] := by
      simp [locationText, foldl_appendTo_ne_nil readable.parts isTop]
    rw [path, locationOf]
    split
    · next isNamed =>
        -- The path of the top would be read as a name that is excluded.
        rw [isNamed] at found
        have named : location = [.name "<top level>"] := by
          rw [← found]
          decide
        exact absurd (congrArg List.head? named) readable.beginning
    · exact found

/-- Locations that their paths tell have different paths if they are
different, and each of them is read back from its path. -/
theorem locationText_tells_location (readable : IsReadableLocation location)
    (otherReadable : IsReadableLocation other) :
    (locationText location = locationText other ↔ location = other) ∧
      locationOf (locationText location) = location := by
  have found := locationOf_locationText readable
  refine ⟨⟨fun same => ?_, congrArg locationText⟩, found⟩
  rw [← found, same, locationOf_locationText otherReadable]

/-- A name may be spelled like a position or like the top of a dataset behind
another step. -/
theorem locationText_tells_digits :
    (locationText [.index (-1), .name "0", .index 0, .name "<top level>"] ≠
        locationText [.index (-1), .index 0, .name "0"]) ∧
      locationOf (locationText
          [.index (-1), .name "0", .index 0, .name "<top level>"]) =
        [.index (-1), .name "0", .index 0, .name "<top level>"] := by
  have readable : IsReadableLocation
      [.index (-1), .name "0", .index 0, .name "<top level>"] :=
    ⟨by decide, by decide⟩
  have otherReadable : IsReadableLocation
      [.index (-1), .index 0, .name "0"] := ⟨by decide, by decide⟩
  obtain ⟨same, found⟩ := locationText_tells_location readable otherReadable
  refine ⟨fun equal => ?_, found⟩
  exact absurd (same.mp equal) (by decide)

/-- Rows of values have the same path just if they are the same location. -/
theorem locationTextOf_eq_iff {values others : List Value}
    (made : values.mapM LocationPart.ofValue = .ok location)
    (otherMade : others.mapM LocationPart.ofValue = .ok other)
    (readable : IsReadableLocation location)
    (otherReadable : IsReadableLocation other) :
    locationTextOf values = locationTextOf others ↔ location = other := by
  rw [locationTextOf, locationTextOf, made, otherMade]
  constructor
  · intro same
    have texts : locationText location = locationText other :=
      Except.ok.inj same
    rw [← locationOf_locationText readable, texts,
      locationOf_locationText otherReadable]
  · rintro rfl
    rfl

/-- A point in a name reads as the mark between two names. -/
example : locationOf (locationText [.name "a.b"]) = [.name "a", .name "b"] := by
  decide

end Paths

end VestingContract
