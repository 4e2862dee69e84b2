import VestingContract.Proofs.Dataset.Accepting
import VestingContract.Proofs.File.Reading
import VestingContract.Proofs.Run.Records
import VestingContract.Run.Load

/-!
# Loading files

Loading only looks at a file and writes records.  A file that
spells a document gives the dataset that the document describes, so the
contract of this dataset shows every literal as it is written.
-/

namespace VestingContract

open Stateful

section Configurations

theorem Yaml.onlyRecords_loadFile (path : PathName) :
    Relates World.OnlyRecords (Yaml.loadFile path) := by
  have looks : Relates World.OnlyRecords
      (Action.onFiles (FileAction.isFile path)) :=
    Action.onlyRecords_onFiles (FileAction.run_isFile_tree path)
  have reads : Relates World.OnlyRecords
      (Action.onFiles (FileAction.read path)) :=
    Action.onlyRecords_onFiles fun tree => by rw [FileAction.run_read]
  unfold Yaml.loadFile
  apply Relates.bind World.OnlyRecords.trans
    (.of_eq World.OnlyRecords.refl fun _ => rfl)
  intro world
  apply Relates.bind World.OnlyRecords.trans looks
  intro isThere
  cases isThere with
  | false => exact .of_eq World.OnlyRecords.refl fun _ => rfl
  | true =>
      apply Relates.bind World.OnlyRecords.trans reads
      intro content
      cases Yaml.load world.platform.interpreter content with
      | error fault => exact Action.onlyRecords_throw _
      | ok value => exact Action.onlyRecords_pure value

theorem Configuration.onlyRecords_load (given : Option PathName) :
    Relates World.OnlyRecords (Configuration.load given) := by
  have looks : ∀ path : PathName, Relates World.OnlyRecords
      (Action.onFiles (FileAction.pathExists path)) := fun path =>
    Action.onlyRecords_onFiles fun tree => by
      rw [FileAction.run_pathExists]
  unfold Configuration.load
  apply Relates.bind World.OnlyRecords.trans
    (.of_eq World.OnlyRecords.refl fun _ => rfl)
  intro world
  apply Relates.bind World.OnlyRecords.trans (looks _)
  intro isThere
  cases isThere with
  | false => exact .of_eq World.OnlyRecords.refl fun _ => rfl
  | true =>
      apply Relates.bind World.OnlyRecords.trans
        (Action.onlyRecords_log _ _ _ _)
      intro _
      apply Relates.bind World.OnlyRecords.trans
      · exact .tryCatch World.OnlyRecords.trans
          (Yaml.onlyRecords_loadFile _) fun _ => Action.onlyRecords_throw _
      · intro value
        cases Configuration.ofValue _ _ value with
        | error fault => exact Action.onlyRecords_throw _
        | ok configuration => exact Action.onlyRecords_pure configuration

theorem Yaml.loadFile_cases (path : PathName) (world : World) :
    (∃ fault, (Yaml.loadFile path).run world =
      (.error (.files (.file fault)), world)) ∨
    ∃ place identity content, PathName.check path.toText = .ok () ∧
      world.files.find path =
        .ok (.present place (.file identity content)) ∧
      (Yaml.loadFile path).run world =
        ((Yaml.load world.platform.interpreter content).mapError
          Failure.document, world) := by
  have looked := Action.run_onFiles (FileAction.isFile path) world
  unfold Yaml.loadFile
  rw [run_bind_of_ok (run_get world)]
  rcases FileAction.isFile_cases path world.files with
    ⟨fault, seen⟩ | seen | ⟨valid, seen⟩
  all_goals rw [seen] at looked
  · exact .inl ⟨fault, run_bind_of_error looked _⟩
  · exact .inl ⟨_, run_bind_of_ok looked _⟩
  · have readBytes := Action.run_onFiles (FileAction.read path) world
    rw [run_bind_of_ok looked]
    simp only [Bool.not_true, Bool.false_eq_true, if_false]
    rcases FileAction.read_cases world.files valid with
      ⟨fault, reads⟩ | ⟨place, identity, content, found, reads⟩
    all_goals rw [reads] at readBytes
    · exact .inl ⟨fault, run_bind_of_error readBytes _⟩
    · refine .inr ⟨place, identity, content, valid, found, ?_⟩
      refine (run_bind_of_ok readBytes _).trans ?_
      cases Yaml.load world.platform.interpreter content <;> rfl

namespace Configuration

/-- The configuration in the bytes of the file at a path. -/
def ofContent (interpreter : Interpreter) (path : PathName)
    (content : List UInt8) : Except Failure Configuration :=
  match Yaml.load interpreter content with
  | .error fault => .error (failureIn path (.document fault))
  | .ok value => (ofValue interpreter.texts path value).mapError .ofReading

/-- The world once the loading of a configuration has been announced. -/
def announced (path : PathName) (world : World) : World :=
  world.log 10 "allocgen.configs.loader" "Loading configuration from %s"
    [.text path.toText]

theorem platform_announced (path : PathName) (world : World) :
    (announced path world).platform = world.platform :=
  (world.onlyRecords_emit 10 _).platform

/-- What the document of a configuration comes to once it has been read. -/
theorem run_document {interpreter : Interpreter} {path : PathName}
    {world : World} {content : List UInt8}
    (loads : (Yaml.loadFile path).run world =
      ((Yaml.load interpreter content).mapError Failure.document, world)) :
    (do
      let value ← tryCatch (Yaml.loadFile path) fun failure =>
        throw (failureIn path failure)
      match ofValue interpreter.texts path value with
      | .error error => throw (.ofReading error)
      | .ok configuration => return configuration :
        Action Configuration).run world =
      (ofContent interpreter path content, world) := by
  rw [ofContent]
  cases parsed : Yaml.load interpreter content with
  | error fault =>
      rw [parsed] at loads
      have caught := run_tryCatch_of_error loads fun failure =>
        (throw (failureIn path failure) : Action Value)
      rw [run_bind_of_error caught]
  | ok value =>
      rw [parsed] at loads
      have caught := run_tryCatch_of_ok loads fun failure =>
        (throw (failureIn path failure) : Action Value)
      rw [run_bind_of_ok caught]
      cases valid : ofValue interpreter.texts path value <;>
        simp only [valid] <;> rfl

/-- Loading a configuration fails with an error that the system reports, or
ends with what the bytes of the file hold. -/
theorem load_cases (given : Option PathName) (world : World) :
    (∃ fault, ((Configuration.load given).run world).1 =
      .error (.files (.file fault))) ∨
    ∃ place identity content,
      (announced (given.getD world.shipped) world).files.find
        (given.getD world.shipped) =
          .ok (.present place (.file identity content)) ∧
      (Configuration.load given).run world =
        (ofContent world.platform.interpreter (given.getD world.shipped)
          content, announced (given.getD world.shipped) world) := by
  unfold Configuration.load
  rw [run_bind_of_ok (run_get world)]
  dsimp only
  generalize given.getD world.shipped = path
  have looked := Action.run_onFiles (FileAction.pathExists path) world
  rcases FileAction.pathExists_cases path world.files with
    ⟨fault, seen⟩ | seen | ⟨-, seen⟩
  all_goals rw [seen] at looked
  · exact .inl ⟨fault, by rw [run_bind_of_error looked]⟩
  · exact .inl ⟨_, by rw [run_bind_of_ok looked]; rfl⟩
  · have logs : (Action.log 10 "allocgen.configs.loader"
        "Loading configuration from %s" [.text path.toText]).run world =
          (.ok ⟨⟩, announced path world) := rfl
    rw [run_bind_of_ok looked]
    simp only [Bool.not_true, Bool.false_eq_true, if_false]
    rw [run_bind_of_ok logs]
    rcases Yaml.loadFile_cases path (announced path world) with
      ⟨fault, loads⟩ | ⟨place, identity, content, -, found, loads⟩
    · have caught := run_tryCatch_of_error loads fun failure =>
        (throw (failureIn path failure) : Action Value)
      exact .inl ⟨fault, by rw [run_bind_of_error caught]; rfl⟩
    · rw [platform_announced] at loads
      exact .inr ⟨place, identity, content, found, run_document loads⟩

end Configuration

end Configurations

namespace Dataset

/-- Loading from the bytes of a file on. -/
def loadContent (path : PathName) (content : List UInt8) : Action Dataset := do
  match ofBytes content with
  | .error fault => throw (Failure.ofContent path.toText fault)
  | .ok dataset =>
      Action.log 10 "allocgen.dataset.loader"
        "Loaded %d categories (%d entries) from %s"
        [.int dataset.length, .int dataset.total, .text path.toText]
      return dataset

theorem load_eq (path : PathName) :
    Dataset.load path = (do
      if !(← Action.onFiles (FileAction.pathExists path)) then
        throw (.files (.file (.missing .dataset path.toText)))
      Action.log 20 "allocgen.dataset.loader" "Loading allocations from %s"
        [.text path.toText]
      loadContent path (← Action.onFiles (FileAction.read path))) := rfl

theorem onlyRecords_loadContent (path : PathName) (content : List UInt8) :
    Relates World.OnlyRecords (loadContent path content) := by
  unfold loadContent
  cases ofBytes content with
  | error fault => exact Action.onlyRecords_throw _
  | ok dataset =>
      exact .bind World.OnlyRecords.trans (Action.onlyRecords_log _ _ _ _)
        fun _ => Action.onlyRecords_pure dataset

theorem onlyRecords_load (path : PathName) :
    Relates World.OnlyRecords (Dataset.load path) := by
  have looks : Relates World.OnlyRecords
      (Action.onFiles (FileAction.pathExists path)) :=
    Action.onlyRecords_onFiles fun tree => by
      rw [FileAction.run_pathExists]
  have reads : Relates World.OnlyRecords
      (Action.onFiles (FileAction.read path)) :=
    Action.onlyRecords_onFiles fun tree => by rw [FileAction.run_read]
  rw [load_eq]
  apply Relates.bind World.OnlyRecords.trans looks
  intro isThere
  have loads := Relates.bind World.OnlyRecords.trans
    (Action.onlyRecords_log 20 "allocgen.dataset.loader"
      "Loading allocations from %s" [.text path.toText])
    fun _ => Relates.bind World.OnlyRecords.trans reads
      (onlyRecords_loadContent path)
  cases isThere with
  | false =>
      exact .bind World.OnlyRecords.trans (Action.onlyRecords_throw _)
        fun _ => loads
  | true => exact loads

/-- The world once the loading of a file has been announced. -/
def announced (path : PathName) (world : World) : World :=
  world.log 20 "allocgen.dataset.loader" "Loading allocations from %s"
    [.text path.toText]

theorem onlyRecords_announced (path : PathName) (world : World) :
    World.OnlyRecords world (announced path world) :=
  world.onlyRecords_emit 20 _

/-- Loading fails with an error that the system reports, or it goes on with
the content that its file has once the loading has been announced. -/
theorem load_cases (path : PathName) (world : World) :
    (∃ fault, ((Dataset.load path).run world).1 =
      .error (.files (.file fault))) ∨
    ∃ place identity content, PathName.check path.toText = .ok () ∧
      (announced path world).files.find path =
        .ok (.present place (.file identity content)) ∧
      (Dataset.load path).run world =
        (loadContent path content).run (announced path world) := by
  have looked := Action.run_onFiles (FileAction.pathExists path) world
  rw [load_eq]
  rcases FileAction.pathExists_cases path world.files with
    ⟨fault, seen⟩ | seen | ⟨valid, seen⟩
  all_goals rw [seen] at looked
  · exact .inl ⟨fault, by rw [run_bind_of_error looked]⟩
  · exact .inl ⟨_, by rw [run_bind_of_ok looked]; rfl⟩
  · have logs : (Action.log 20 "allocgen.dataset.loader"
        "Loading allocations from %s" [.text path.toText]).run world =
          (.ok ⟨⟩, announced path world) := rfl
    have readBytes := Action.run_onFiles (FileAction.read path)
      (announced path world)
    rw [run_bind_of_ok looked]
    simp only [Bool.not_true, Bool.false_eq_true, if_false]
    rw [run_bind_of_ok logs]
    rcases FileAction.read_cases (announced path world).files valid with
      ⟨fault, reads⟩ | ⟨place, identity, content, found, reads⟩
    all_goals rw [reads] at readBytes
    · exact .inl ⟨fault, by rw [run_bind_of_error readBytes]⟩
    · exact .inr ⟨place, identity, content, valid, found,
        run_bind_of_ok readBytes _⟩

theorem ofBytes_of_loadContent {path : PathName} {content : List UInt8}
    {world after : World} {dataset : Dataset}
    (loaded : (loadContent path content).run world = (.ok dataset, after)) :
    Dataset.ofBytes content = .ok dataset := by
  rw [loadContent] at loaded
  cases holds : Dataset.ofBytes content with
  | error fault =>
      rw [holds] at loaded
      cases loaded
  | ok other =>
      rw [holds] at loaded
      cases loaded
      rfl

theorem run_loadContent_fst {path : PathName} {world : World}
    (content : List UInt8) :
    ((loadContent path content).run world).1 =
      (ofBytes content).mapError (Failure.ofContent path.toText) := by
  rw [loadContent]
  cases ofBytes content <;> rfl

/-- A dataset that has been loaded is the one in the bytes that the file has
once the loading has been announced. -/
theorem exists_content_of_load {path : PathName} {world after : World}
    {dataset : Dataset}
    (loaded : (Dataset.load path).run world = (.ok dataset, after)) :
    ∃ place identity content,
      (announced path world).files.find path =
        .ok (.present place (.file identity content)) ∧
      Dataset.ofBytes content = .ok dataset := by
  rcases load_cases path world with
    ⟨fault, fails⟩ | ⟨place, identity, content, -, found, ends⟩
  · rw [loaded] at fails
    cases fails
  · rw [loaded] at ends
    exact ⟨place, identity, content, found,
      ofBytes_of_loadContent ends.symm⟩

theorem exists_isSpelled_of_load {path : PathName} {world after : World}
    {dataset : Dataset}
    (loaded : (Dataset.load path).run world = (.ok dataset, after)) :
    ∃ categories, dataset.IsSpelled categories := by
  obtain ⟨_, _, _, -, holds⟩ := exists_content_of_load loaded
  obtain ⟨_, _, categories, -, -, spelled, -⟩ := isSpelled_of_ofBytes holds
  exact ⟨categories, spelled⟩

/-- A dataset that has been loaded can be rendered. -/
theorem renderContract_of_load {path : PathName} {world after : World}
    {dataset : Dataset}
    (loaded : (Dataset.load path).run world = (.ok dataset, after))
    (template : Template) :
    ∃ text, renderContract template dataset = .ok text := by
  obtain ⟨categories, spelled⟩ := exists_isSpelled_of_load loaded
  exact ⟨_, renderContract_of_isSpelled template spelled⟩

section Found

variable {path : PathName} {world : World} {place : List Text}
  {identity : Nat} {content : List UInt8}
  (found : world.files.find path =
    .ok (.present place (.file identity content)))

/-- A file is read once its loading has been announced, which may have added a
record to it. -/
theorem run_load (valid : PathName.check path.toText = .ok ())
    (found : world.files.find path =
      .ok (.present place (.file identity content)))
    {bytes : List UInt8}
    (foundLater : (announced path world).files.find path =
      .ok (.present place (.file identity bytes))) :
    (Dataset.load path).run world =
      (loadContent path bytes).run (announced path world) := by
  have isThere : (Action.onFiles (FileAction.pathExists path)).run world =
      (.ok true, world) := by
    rw [Action.run_onFiles, FileAction.run_pathExists_of_find valid found]
    rfl
  have readBytes : (Action.onFiles (FileAction.read path)).run
      (announced path world) = (.ok bytes, announced path world) := by
    rw [Action.run_onFiles, FileAction.run_read_of_find valid foundLater]
    rfl
  have logs : (Action.log 20 "allocgen.dataset.loader"
      "Loading allocations from %s" [.text path.toText]).run world =
        (.ok ⟨⟩, announced path world) := rfl
  rw [load_eq, run_bind_of_ok isThere]
  simp only [Bool.not_true, Bool.false_eq_true, if_false]
  rw [run_bind_of_ok logs, run_bind_of_ok readBytes]

include found

/-- Loading ends with what the bytes of the file hold, if no record is written
into this file. -/
theorem run_load_fst (valid : PathName.check path.toText = .ok ())
    (apart : ¬ world.logging.WritesTo identity) :
    ((Dataset.load path).run world).1 =
      (ofBytes content).mapError (Failure.ofContent path.toText) := by
  obtain ⟨added, foundLater, isNone⟩ :=
    (onlyRecords_announced path world).find found
  rw [isNone apart, List.append_nil] at foundLater
  rw [run_load valid found foundLater]
  exact run_loadContent_fst content

/-- The dataset of a file is read from its bytes, if no record is written
into this file. -/
theorem load_of_ofBytes {dataset : Dataset}
    (valid : PathName.check path.toText = .ok ())
    (apart : ¬ world.logging.WritesTo identity)
    (holds : Dataset.ofBytes content = .ok dataset) :
    ∃ after, (Dataset.load path).run world = (.ok dataset, after) := by
  have ends := run_load_fst found valid apart
  rw [holds] at ends
  exact ⟨_, Prod.ext ends rfl⟩

/-- A dataset that is loaded from a file is the one in its bytes, with those
that a record has added. -/
theorem ofBytes_of_load {after : World} {dataset : Dataset}
    (loaded : (Dataset.load path).run world = (.ok dataset, after)) :
    ∃ added, Dataset.ofBytes (content ++ added) = .ok dataset ∧
      (¬ world.logging.WritesTo identity → added = []) := by
  obtain ⟨added, foundLater, isNone⟩ :=
    (onlyRecords_announced path world).find found
  obtain ⟨_, _, bytes, foundBytes, holds⟩ := exists_content_of_load loaded
  obtain rfl : content ++ added = bytes := by
    rw [foundLater] at foundBytes
    cases foundBytes
    rfl
  exact ⟨added, holds, isNone⟩

end Found

/-- Tokens reach the contract as they are written: however a document is
spelled that describes categories of entries, its file is loaded, and the
contract shows the entries in order with the texts of their literals. -/
theorem load_of_isSpelledBy {path : PathName} {world : World}
    {place : List Text} {identity : Nat} {document : Json}
    {categories : SpelledDataset} {chars : List Char}
    (describes : document.Describes categories)
    (spelled : document.IsSpelledBy chars)
    (shallow : document.depth ≤ 400)
    (valid : PathName.check path.toText = .ok ())
    (found : world.files.find path =
      .ok (.present place (.file identity (Utf8.encodeChars chars))))
    (apart : ¬ world.logging.WritesTo identity) (template : Template) :
    ∃ dataset after, (Dataset.load path).run world = (.ok dataset, after) ∧
      renderContract template dataset =
        .ok (template.contractText categories) := by
  obtain ⟨dataset, holds, isSpelled⟩ :=
    Dataset.ofBytes_of_isSpelledBy describes spelled
      (le_trans shallow (by decide))
  obtain ⟨after, loaded⟩ := load_of_ofBytes found valid apart holds
  exact ⟨dataset, after, loaded,
    renderContract_of_isSpelled template isSpelled⟩

section SingleFile

/-- A world with one file, to which no record is written. -/
def singleFile (content : List UInt8) : World where
  files := ⟨[([("data.json" : Text)], .file 0 content)], [], 1⟩
  logging := .initial
  output := []
  errors := []
  uses := []
  clock := .null
  terminal := false
  shipped := ⟨1, []⟩

/-- The path of the file. -/
def singlePath : PathName := ⟨0, ["data.json"]⟩

theorem find_singleFile (content : List UInt8) :
    (singleFile content).files.find singlePath =
      .ok (.present [("data.json" : Text)] (.file 0 content)) := by
  rw [singlePath, FileTree.find, if_neg (by decide), FileTree.walk]
  rfl

theorem not_writesTo_singleFile (content : List UInt8) :
    ¬ (singleFile content).logging.WritesTo 0 := by
  rintro ⟨style, attached⟩
  exact absurd attached List.not_mem_nil

theorem check_singlePath : PathName.check singlePath.toText = .ok () := by
  decide

end SingleFile

section Awkward

open Json

/-- A document with members in an unusual order, one of them unknown. -/
def awkwardDocument : Json :=
  .object [("Team", .array [.object [
    ("note", .array [.null, .object []]),
    ("endDate", .number ['-', '0']),
    ("startDate", .number ['1', 'E', '+', '3']),
    ("address", .text (Text.ofChars ['é', '😀', '/'])),
    ("allocationAtStartDate", .bool true),
    ("allocationAtEndDate", .number ['1', '.', '5', '0'])]])]

/-- The document with escapes, white space and line ends of both kinds. -/
def awkwardSpelling : List Char :=
  "\x7b\r\n\"Team\" : [ \x7b".toList ++
    "\"note\":[null,\x7b\x7d],\n".toList ++
    "\"endDate\": -0,\t".toList ++
    "\"startDate\":1E+3 ,".toList ++
    "\"address\":\"\\u00e9".toList ++ "\\uD83d\\ude00\\/\",".toList ++
    "\"allocationAtStartDate\":".toList ++ "true,".toList ++
    "\"allocationAtEndDate\":".toList ++ "1.50\x7d]\x7d\n".toList

theorem awkwardSpelling_spells :
    awkwardDocument.IsSpelledBy awkwardSpelling := by
  have eAcute : SpellsChar 'é' ['\\', 'u', '0', '0', 'e', '9'] :=
    .unit (@SpellsUnit.digits ('0', 0) ('0', 0) ('e', 14) ('9', 9)
      (by decide) (by decide) (by decide) (by decide))
  have smile : SpellsChar '😀' (['\\', 'u', 'D', '8', '3', 'd'] ++
      ['\\', 'u', 'd', 'e', '0', '0']) :=
    .pair (by decide)
      (@SpellsUnit.digits ('D', 13) ('8', 8) ('3', 3) ('d', 13)
        (by decide) (by decide) (by decide) (by decide))
      (@SpellsUnit.digits ('d', 13) ('e', 14) ('0', 0) ('0', 0)
        (by decide) (by decide) (by decide) (by decide))
  have slash : SpellsChar '/' ['\\', '/'] := .short (by decide)
  have digits : ∀ {chars : List Char}, chars ≠ [] →
      chars.all (fun char => isDigit char = true) = true → IsDigits chars :=
    fun nonempty all => ⟨nonempty, forall_mem_of_all all⟩
  have one : IsDigits ['1'] := digits (by decide) (by decide)
  have numbers : IsNumber ['-', '0'] ∧ IsNumber ['1', 'E', '+', '3'] ∧
      IsNumber ['1', '.', '5', '0'] :=
    ⟨⟨['-'], ['0'], [], [], .inr rfl, .inl rfl, .inl rfl, .inl rfl, rfl⟩,
      ⟨[], ['1'], [], ['E', '+', '3'], .inl rfl, .inr ⟨one, by decide⟩,
        .inl rfl, .inr ⟨'E', ['+'], ['3'], .inr rfl, .inr (.inl rfl),
          digits (by decide) (by decide), rfl⟩, rfl⟩,
      ⟨[], ['1'], ['.', '5', '0'], [], .inl rfl, .inr ⟨one, by decide⟩,
        .inr ⟨['5', '0'], digits (by decide) (by decide), rfl⟩, .inl rfl,
        rfl⟩⟩
  have none : IsSpace [] := by simp [IsSpace]
  have name : ∀ content {rest lexemes}, (content.all fun char =>
      0x20 ≤ char.toNat ∧ char ≠ '"' ∧ char ≠ '\\') = true →
      SpellsLexemes lexemes rest →
      SpellsLexemes (.text (Text.ofChars content) :: .colon :: lexemes)
        (('"' :: (content ++ ['"'])) ++ ([':'] ++ rest)) :=
    fun _ _ _ simple tail =>
      .next (.plain _ (forall_mem_of_all simple)) (.next .colon tail)
  obtain ⟨chars, rfl, spelled⟩ : ∃ chars, awkwardSpelling = chars ∧
      SpellsLexemes awkwardDocument.lexemes chars := by
    refine ⟨_, ?_, .next .beginObject <|
      .behind '\r' rfl <| .behind '\n' rfl <|
      .next (.plain "Team".toList (forall_mem_of_all (by decide))) <|
      .behind ' ' rfl <|
      .next .colon <| .behind ' ' rfl <| .next .beginArray <|
      .behind ' ' rfl <| .next .beginObject <|
      name "note".toList (by decide) <| .next .beginArray <|
      .next .null <| .next .comma <| .next .beginObject <|
      .next .endObject <| .next .endArray <| .next .comma <|
      .behind '\n' rfl <| name "endDate".toList (by decide) <|
      .behind ' ' rfl <| .next (.number numbers.1) <| .next .comma <|
      .behind '\t' rfl <| name "startDate".toList (by decide) <|
      .next (.number numbers.2.1) <| .behind ' ' rfl <| .next .comma <|
      name "address".toList (by decide) <|
      .next (.text (.cons eAcute (.cons smile (.cons slash .nil)))) <|
      .next .comma <|
      name "allocationAtStartDate".toList (by decide) <|
      .next .true <| .next .comma <|
      name "allocationAtEndDate".toList (by decide) <|
      .next (.number numbers.2.2) <| .next .endObject <| .next .endArray <|
      .next .endObject <| .behind '\n' rfl <| .nil none⟩
    decide +kernel
  exact spelled

/-- The texts of the awkward literals. -/
def awkwardSpelled : SpelledDataset :=
  [("Team", [⟨"é😀/", "1.50", "true", "1E+3", "-0"⟩])]

theorem awkwardDocument_describes :
    awkwardDocument.Describes awkwardSpelled := by
  refine ⟨_, rfl, .cons ⟨rfl, _, rfl, .cons ⟨_, rfl, ?_⟩ .nil⟩ .nil,
    by decide⟩
  refine ⟨⟨_ :: _ :: _ :: [], _, _, rfl, ?_⟩, ⟨_ :: _ :: _ :: _ :: [], _, _,
    rfl, ?_⟩, ⟨_ :: _ :: _ :: _ :: _ :: [], _, _, rfl, ?_⟩,
    ⟨_ :: _ :: [], _, _, rfl, ?_⟩, ⟨_ :: [], _, _, rfl, ?_⟩⟩ <;>
    exact ⟨by decide, by decide, by decide⟩

/-- A world with the awkward spelling in a file. -/
def awkwardWorld : World where
  files := ⟨[([("data.json" : Text)],
    .file 0 (Utf8.encodeChars awkwardSpelling))], [], 1⟩
  logging := .initial
  output := []
  errors := []
  uses := []
  clock := .null
  terminal := false
  shipped := ⟨1, []⟩

/-- The awkward tokens reach the contract. -/
theorem load_awkward :
    ∃ dataset after,
      (Dataset.load ⟨0, ["data.json"]⟩).run awkwardWorld =
        (.ok dataset, after) ∧
      renderContract .standard dataset =
        .ok (Template.standard.contractText awkwardSpelled) := by
  have found : awkwardWorld.files.find ⟨0, ["data.json"]⟩ =
      .ok (.present [("data.json" : Text)]
        (.file 0 (Utf8.encodeChars awkwardSpelling))) := by
    rw [FileTree.find, if_neg (by decide), FileTree.walk]
    rfl
  have apart : ¬ awkwardWorld.logging.WritesTo 0 := by
    rintro ⟨style, attached⟩
    exact absurd attached List.not_mem_nil
  exact load_of_isSpelledBy awkwardDocument_describes awkwardSpelling_spells
    (by decide) (by decide) found apart .standard

end Awkward

end Dataset

end VestingContract
