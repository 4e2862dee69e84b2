import VestingContract.Proofs.Run.Configuring

/-!
# Blank paths in configurations

A path of white space keeps its spelling, so that a configuration with such a
path is refused as blank.  The empty text does not: it is the path that leads
nowhere, which is spelled as a point, and a configuration with it is taken for
one with a point.
-/

namespace VestingContract

section Spellings

variable {text : Text}

theorem Text.splitOn_of_not_mem {separator : CodePoint}
    (absent : separator ∉ text) : splitOn separator text = [text] := by
  induction text with
  | nil => rfl
  | cons codePoint text ih =>
      have first := List.ne_of_not_mem_cons absent
      have others := List.not_mem_of_not_mem_cons absent
      rw [splitOn, if_neg (Ne.symm first), ih others]

theorem Text.not_mem_of_isBlank {codePoint : CodePoint}
    (blank : text.isBlank = true) (visible : codePoint.isBlank = false) :
    codePoint ∉ text := by
  intro member
  have isBlank := List.all_eq_true.mp blank codePoint member
  rw [visible] at isBlank
  cases isBlank

namespace PathName

theorem ofText_of_isBlank (blank : text.isBlank = true) (nonempty : text ≠ []) :
    ofText text = ⟨0, [text]⟩ := by
  have noSlash : CodePoint.scalar '/' ∉ text :=
    Text.not_mem_of_isBlank blank (by decide)
  have noPoint : text ≠ [.scalar '.'] := by
    rintro rfl
    exact absurd blank (by decide)
  have leading : text.takeWhile (· == .scalar '/') = [] := by
    cases text with
    | nil => rfl
    | cons codePoint text =>
        have first := List.ne_of_not_mem_cons noSlash
        rw [List.takeWhile_cons, if_neg fun same =>
          first (beq_iff_eq.mp same).symm]
  simp [ofText, leading, Text.splitOn_of_not_mem noSlash, nonempty, noPoint]

/-- White space is spelled as it was given. -/
theorem toText_ofText_of_isBlank (blank : text.isBlank = true)
    (nonempty : text ≠ []) : (ofText text).toText = text := by
  simp [ofText_of_isBlank blank nonempty, toText, Text.join, nonempty]

theorem ofText_nil : ofText [] = ofText "." := by
  decide

/-- Of the blank texts only the empty one is a path with another spelling. -/
theorem eq_nil_of_isBlank (blank : text.isBlank = true)
    (visible : (ofText text).toText.isBlank = false) : text = [] := by
  by_contra nonempty
  rw [toText_ofText_of_isBlank blank nonempty, blank] at visible
  cases visible

end PathName

end Spellings

namespace Value

/-- The text under a key of the paths of a mapping. -/
def pathText? (key : Text) : Value → Option Text
  | map pairs =>
      match lookup? "paths" pairs with
      | some (map places) =>
          match lookup? key places with
          | some (text content) => some content
          | _ => none
      | _ => none
  | _ => none

/-- A mapping with another text under a key of its paths. -/
def withPathText (key content : Text) : Value → Value
  | map pairs =>
      match lookup? "paths" pairs with
      | some (map places) =>
          let replaced := insertPair (text key) (text content) places
          map (insertPair (text "paths") (map replaced) pairs)
      | _ => map pairs
  | value => value

theorem pathText?_eq_some_iff {value : Value} {key content : Text} :
    value.pathText? key = some content ↔
      ∃ pairs places, value = map pairs ∧
        lookup? "paths" pairs = some (map places) ∧
        lookup? key places = some (text content) := by
  constructor
  · intro found
    cases value with
    | map pairs =>
        rw [pathText?] at found
        split at found
        · next places isPaths =>
            split at found
            · next isText =>
                cases found
                exact ⟨pairs, places, rfl, isPaths, isText⟩
            · cases found
        · cases found
    | _ => cases found
  · rintro ⟨pairs, places, rfl, isPaths, isText⟩
    simp only [pathText?, isPaths, isText]

theorem under_insertPair {key name : Text} (different : key ≠ name)
    (value : Value) (pairs : List (Value × Value)) :
    under name (insertPair (text key) value pairs) = under name pairs := by
  rw [under, lookup?_insertPair, if_neg different, under]

/-- Another value of the same depth under a key changes no depth. -/
theorem depthOfPairs_insertPair {key : Text} {old new : Value}
    {pairs : List (Value × Value)} (found : lookup? key pairs = some old)
    (same : new.depth = old.depth) :
    depthOfPairs (insertPair (text key) new pairs) = depthOfPairs pairs := by
  induction pairs with
  | nil => cases found
  | cons pair pairs ih =>
      obtain ⟨name, value⟩ := pair
      by_cases isKey : name.sameKey (text key) = true
      · obtain rfl := sameKey_text_iff.mp isKey
        rw [lookup?, if_pos rfl] at found
        cases found
        rw [insertPair, if_pos isKey, depthOfPairs, depthOfPairs, same]
      · have later : lookup? key pairs = some old := by
          cases name with
          | text other =>
              have different : other ≠ key := fun equal =>
                isKey (sameKey_text_iff.mpr (congrArg Value.text equal))
              rwa [lookup?, if_neg different] at found
          | _ => exact found
        rw [insertPair, if_neg isKey, depthOfPairs, depthOfPairs, ih later]

/-- A text for a path is nested as deeply as any other one. -/
theorem depth_withPathText {value : Value} {key old : Text}
    (found : value.pathText? key = some old) (new : Text) :
    (value.withPathText key new).depth = value.depth := by
  obtain ⟨pairs, places, rfl, isPaths, isText⟩ :=
    pathText?_eq_some_iff.mp found
  have inner : (map (insertPair (text key) (text new) places)).depth =
      (map places).depth := by
    have same : (text new).depth = (text old).depth := rfl
    rw [depth, depth, depthOfPairs_insertPair isText same]
  simp only [withPathText, isPaths]
  rw [depth, depth, depthOfPairs_insertPair isPaths inner]

end Value

namespace Configuration

section Replacing

variable {room : Nat} {places : List (Value × Value)}
  {key name old new : Text}
  {path : PathName}

/-- The path that the text under a key is taken for. -/
def IsPlace (places : List (Value × Value)) (key : Text) (path : PathName) :
    Prop :=
  ∃ content, Value.lookup? key places = some (.text content) ∧
    path = PathName.ofText content

theorem isPlace_insertPair
    (found : Value.lookup? key places = some (.text old))
    (same : PathName.ofText old = PathName.ofText new) :
    IsPlace (Value.insertPair (.text key) (.text new) places) name path ↔
      IsPlace places name path := by
  simp only [IsPlace, Value.lookup?_insertPair]
  by_cases isKey : key = name
  · subst isKey
    simp [found, same]
  · simp only [if_neg isKey]

theorem isGivenBy_map_iff {pairs : List (Value × Value)}
    {configuration : Configuration}
    (isPaths : Value.lookup? "paths" pairs = some (.map places)) :
    configuration.IsGivenBy room (.map pairs) ↔
      IsPlace places "input" configuration.input ∧
      IsPlace places "output" configuration.output ∧
      (∃ template, (Value.under "template" pairs).IsSection template ∧
        configuration.template.IsGivenBy room template) ∧
      ∃ logging, (Value.under "logging" pairs).IsSection logging ∧
        configuration.logging.IsGivenBy room logging := by
  constructor
  · rintro ⟨_, others, input, output, template, logging, ⟨⟩, isOthers,
      inputFound, outputFound, isInput, isOutput, isTemplate, templateGiven,
      isLogging, loggingGiven⟩
    rw [isPaths] at isOthers
    cases isOthers
    exact ⟨⟨input, inputFound, isInput⟩, ⟨output, outputFound, isOutput⟩,
      ⟨template, isTemplate, templateGiven⟩, logging, isLogging, loggingGiven⟩
  · rintro ⟨⟨input, inputFound, isInput⟩, ⟨output, outputFound, isOutput⟩,
      ⟨template, isTemplate, templateGiven⟩, logging, isLogging, loggingGiven⟩
    exact ⟨pairs, places, input, output, template, logging, rfl, isPaths,
      inputFound, outputFound, isInput, isOutput, isTemplate, templateGiven,
      isLogging, loggingGiven⟩

/-- What a value gives does not change with the spelling of its paths. -/
theorem isGivenBy_withPathText_iff {value : Value}
    {configuration : Configuration} (found : value.pathText? key = some old)
    (same : PathName.ofText old = PathName.ofText new) :
    configuration.IsGivenBy room (value.withPathText key new) ↔
      configuration.IsGivenBy room value := by
  obtain ⟨pairs, places, rfl, isPaths, isText⟩ :=
    Value.pathText?_eq_some_iff.mp found
  have isReplaced : Value.lookup? "paths" (Value.insertPair (.text "paths")
      (.map (Value.insertPair (.text key) (.text new) places)) pairs) =
        some (.map (Value.insertPair (.text key) (.text new) places)) := by
    rw [Value.lookup?_insertPair, if_pos rfl]
  simp only [Value.withPathText, isPaths]
  rw [isGivenBy_map_iff isReplaced, isGivenBy_map_iff isPaths,
    isPlace_insertPair isText same, isPlace_insertPair isText same,
    Value.under_insertPair (by decide), Value.under_insertPair (by decide)]

end Replacing

section Refusing

variable {room : Nat} {value : Value} {key text : Text}

/-- The keys of the two paths. -/
def pathKeys : List Text := ["input", "output"]

/-- The path of a configuration under a key. -/
def pathUnder (configuration : Configuration) (key : Text) : PathName :=
  if key = "input" then configuration.input else configuration.output

theorem IsGivenBy.pathUnder_eq {configuration : Configuration}
    (given : configuration.IsGivenBy room value) (isKey : key ∈ pathKeys)
    (found : value.pathText? key = some text) :
    configuration.pathUnder key = PathName.ofText text := by
  obtain ⟨pairs, places, rfl, isPaths, isText⟩ :=
    Value.pathText?_eq_some_iff.mp found
  obtain ⟨⟨input, inputFound, isInput⟩, ⟨output, outputFound, isOutput⟩, -⟩ :=
    (isGivenBy_map_iff isPaths).mp given
  simp only [pathKeys, List.mem_cons, List.not_mem_nil, or_false] at isKey
  rcases isKey with rfl | rfl
  · rw [inputFound] at isText
    cases isText
    exact isInput
  · rw [outputFound] at isText
    cases isText
    exact isOutput

theorem IsSound.isBlank_pathUnder {configuration : Configuration}
    (sound : configuration.IsSound) (key : Text) :
    (configuration.pathUnder key).toText.isBlank = false := by
  rw [pathUnder]
  split
  · exact sound.input
  · exact sound.output

theorem IsSound.pathUnder_injective {configuration : Configuration}
    (sound : configuration.IsSound) {other : Text} (isKey : key ∈ pathKeys)
    (isOther : other ∈ pathKeys)
    (same : configuration.pathUnder key = configuration.pathUnder other) :
    key = other := by
  simp only [pathKeys, List.mem_cons, List.not_mem_nil, or_false]
    at isKey isOther
  rcases isKey with rfl | rfl <;> rcases isOther with rfl | rfl
  · rfl
  · exact absurd same sound.paths
  · exact absurd same.symm sound.paths
  · rfl

/-- A value with a blank text for a path is refused unless this text is empty
and the other one is not blank.  The empty text is answered as a point is. -/
structure AnswersBlank (room : Nat) (value : Value) (key text : Text)
    (result : Except Failure Configuration) : Prop where
  whiteSpace : text ≠ [] → Refuses room value result
  both : ∀ other ∈ pathKeys, other ≠ key →
    ∀ otherText, value.pathText? other = some otherText →
      otherText.isBlank = true → Refuses room value result
  empty : text = [] → Answers room (value.withPathText key ".") result

theorem Answers.refuses {result : Except Failure Configuration}
    (answers : Answers room value result)
    (unfit : ∀ configuration : Configuration,
      configuration.IsGivenBy room value → ¬ configuration.IsSound) :
    Refuses room value result := by
  rcases answers.ends with ⟨configuration, accepted⟩ | refused
  · obtain ⟨given, sound⟩ := (answers.accepted configuration).mp accepted
    exact absurd sound (unfit configuration given)
  · exact refused

theorem Answers.blank {result : Except Failure Configuration}
    (answers : Answers room value result) (isKey : key ∈ pathKeys)
    (found : value.pathText? key = some text)
    (blank : text.isBlank = true) :
    AnswersBlank room value key text result := by
  -- A blank path of a sound configuration was empty.
  have isEmpty : ∀ configuration : Configuration,
      configuration.IsGivenBy room value → configuration.IsSound →
        ∀ name ∈ pathKeys, ∀ content, value.pathText? name = some content →
          content.isBlank = true → content = [] := by
    intro configuration given sound name isName content isContent isBlank
    have visible := sound.isBlank_pathUnder name
    rw [given.pathUnder_eq isName isContent] at visible
    exact PathName.eq_nil_of_isBlank isBlank visible
  constructor
  case whiteSpace =>
    intro nonempty
    apply answers.refuses
    intro configuration given sound
    exact nonempty (isEmpty _ given sound key isKey text found blank)
  case both =>
    intro other isOther different otherText isText otherBlank
    apply answers.refuses
    intro configuration given sound
    obtain rfl := isEmpty _ given sound key isKey text found blank
    obtain rfl := isEmpty _ given sound other isOther _ isText otherBlank
    refine different (sound.pathUnder_injective isOther isKey ?_)
    rw [given.pathUnder_eq isKey found, given.pathUnder_eq isOther isText]
  case empty =>
    rintro rfl
    have sameDepth := Value.depth_withPathText found "."
    refine ⟨?_, fun configuration => ?_⟩
    · rcases answers.ends with accepted | refused
      · exact .inl accepted
      · cases refused with
        | fault fault => exact .inr (.fault fault)
        | depth deep => exact .inr (.depth (sameDepth ▸ deep))
    · rw [answers.accepted,
        isGivenBy_withPathText_iff found PathName.ofText_nil]

end Refusing

section Loading

/-- Whatever else a mapping holds, with white space for a path or with two
blank paths it is refused as a configuration, and an empty path is answered as
a point is. -/
theorem load_answers_blank_path (given : Option PathName)
    {world after : World} {value : Value} {key text : Text}
    (read : (Yaml.loadFile (given.getD world.shipped)).run
      (announced (given.getD world.shipped) world) = (.ok value, after))
    (isKey : key ∈ pathKeys) (found : value.pathText? key = some text)
    (blank : text.isBlank = true) :
    AnswersBlank world.platform.interpreter.texts value key text
      ((Configuration.load given).run world).1 :=
  (answers_load given read).blank isKey found blank

/-- The single file holds a shallow mapping with a text under a key of its
paths. -/
theorem exists_pathText_singleFile (bytes : List UInt8) (key text : Text)
    (parsed : (Yaml.load .plain bytes).toOption.any (fun value =>
      value.pathText? key = some text && value.depth ≤ 400) = true) :
    ∃ value, (Yaml.loadFile Dataset.singlePath).run
        (announced Dataset.singlePath (Dataset.singleFile bytes)) =
          (.ok value, Dataset.singleFile bytes) ∧
      value.pathText? key = some text ∧ value.depth ≤ 400 := by
  obtain ⟨value, read, passes⟩ := exists_value_singleFile bytes _ parsed
  obtain ⟨found, shallow⟩ := Bool.and_eq_true_iff.mp passes
  exact ⟨value, read, of_decide_eq_true found, of_decide_eq_true shallow⟩

/-- A document with a space for a path. -/
def spaceDocument : List UInt8 :=
  Utf8.encodeChars "paths: \x7binput: ' ', output: b\x7d\n".toList

/-- The space is refused. -/
theorem load_refuses_space : ∃ value after,
    (Yaml.loadFile Dataset.singlePath).run
        (announced Dataset.singlePath (Dataset.singleFile spaceDocument)) =
      (.ok value, after) ∧
    value.pathText? "input" = some " " ∧
    value.depth ≤ 400 ∧
    Refuses Interpreter.plain.texts value
      ((Configuration.load (some Dataset.singlePath)).run
        (Dataset.singleFile spaceDocument)).1 := by
  obtain ⟨value, read, found, shallow⟩ :=
    exists_pathText_singleFile spaceDocument "input" " " (by decide +kernel)
  have answers := load_answers_blank_path (some Dataset.singlePath) read
    (by decide) found (by decide)
  exact ⟨value, _, read, found, shallow, answers.whiteSpace (by decide)⟩

/-- A document with nothing for a path. -/
def emptyDocument : List UInt8 :=
  Utf8.encodeChars "paths: \x7binput: '', output: b\x7d\n".toList

/-- Not every blank path is refused. -/
theorem load_accepts_empty_path :
    ¬ ∀ (given : Option PathName) (world after : World) (value : Value)
      (key text : Text),
      (Yaml.loadFile (given.getD world.shipped)).run
        (announced (given.getD world.shipped) world) = (.ok value, after) →
      key ∈ pathKeys → value.pathText? key = some text →
      text.isBlank = true →
        ∃ fault, ((Configuration.load given).run world).1 =
          .error (.configuration fault) := by
  intro claim
  obtain ⟨value, read, found, -⟩ :=
    exists_pathText_singleFile emptyDocument "input" [] (by decide +kernel)
  obtain ⟨fault, refused⟩ := claim (some Dataset.singlePath) _ _ value
    "input" [] read (by decide) found rfl
  have accepted : ((Configuration.load (some Dataset.singlePath)).run
      (Dataset.singleFile emptyDocument)).1.isOk = true := by
    decide +kernel
  rw [refused] at accepted
  cases accepted

end Loading

end Configuration

end VestingContract
