import VestingContract.Proofs.Config.Raising
import VestingContract.Proofs.Run.Load
import VestingContract.Proofs.Run.LogFile

/-!
# Loading configurations

The file of a configuration is read once its loading has been announced.  A
document that has a value is answered with the sound configuration that the
value gives, or refused as a configuration.
-/

namespace VestingContract

open Stateful

/-- A file was one before records were written. -/
theorem World.OnlyRecords.exists_find {world after : World}
    (only : World.OnlyRecords world after) {path : PathName}
    {place : List Text} {identity : Nat} {content : List UInt8}
    (found : after.files.find path =
      .ok (.present place (.file identity content))) :
    ∃ place content, world.files.find path =
      .ok (.present place (.file identity content)) := by
  by_contra missing
  have avoids : world.files.Avoids path identity := fun place content here =>
    missing ⟨place, content, here⟩
  obtain ⟨additions, additionsEq, -⟩ := only.files
  rw [additionsEq] at found
  exact avoids.appendAll additions place content found

theorem Yaml.run_loadFile {path : PathName} {world : World}
    {place : List Text} {identity : Nat} {content : List UInt8}
    (valid : PathName.check path.toText = .ok ())
    (found : world.files.find path =
      .ok (.present place (.file identity content))) :
    (Yaml.loadFile path).run world =
      ((Yaml.load world.platform.interpreter content).mapError
        Failure.document, world) := by
  have isThere : (Action.onFiles (FileAction.isFile path)).run world =
      (.ok true, world) := by
    rw [Action.run_onFiles, FileAction.run_isFile_of_find valid found]
    rfl
  have readBytes : (Action.onFiles (FileAction.read path)).run world =
      (.ok content, world) := by
    rw [Action.run_onFiles, FileAction.run_read_of_find valid found]
    rfl
  unfold Yaml.loadFile
  rw [run_bind_of_ok (run_get world), run_bind_of_ok isThere]
  simp only [Bool.not_true, Bool.false_eq_true, if_false]
  rw [run_bind_of_ok readBytes]
  cases Yaml.load world.platform.interpreter content <;> rfl

namespace Configuration

section Loading

variable {given : Option PathName} {world : World}

theorem onlyRecords_announced (path : PathName) (world : World) :
    World.OnlyRecords world (announced path world) :=
  world.onlyRecords_emit 10 _

/-- The file of a configuration is read once its loading has been announced,
which may have added a record to it. -/
theorem run_load {place : List Text} {identity : Nat} {bytes : List UInt8}
    (valid : PathName.check (given.getD world.shipped).toText = .ok ())
    (found : (announced (given.getD world.shipped) world).files.find
      (given.getD world.shipped) =
        .ok (.present place (.file identity bytes))) :
    (Configuration.load given).run world =
      (ofContent world.platform.interpreter (given.getD world.shipped) bytes,
        announced (given.getD world.shipped) world) := by
  unfold Configuration.load
  rw [run_bind_of_ok (run_get world)]
  dsimp only
  generalize given.getD world.shipped = path at valid found
  obtain ⟨before, content, there⟩ :=
    (onlyRecords_announced path world).exists_find found
  have isThere : (Action.onFiles (FileAction.pathExists path)).run world =
      (.ok true, world) := by
    rw [Action.run_onFiles, FileAction.run_pathExists_of_find valid there]
    rfl
  have logs : (Action.log 10 "allocgen.configs.loader"
      "Loading configuration from %s" [.text path.toText]).run world =
        (.ok ⟨⟩, announced path world) := rfl
  rw [run_bind_of_ok isThere]
  simp only [Bool.not_true, Bool.false_eq_true, if_false]
  rw [run_bind_of_ok logs]
  have reads := Yaml.run_loadFile valid found
  rw [platform_announced] at reads
  exact run_document reads

theorem exists_value_of_load {configuration : Configuration} {after : World}
    (loads : (Configuration.load given).run world =
      (.ok configuration, after)) :
    ∃ value, ofValue world.platform.interpreter.texts
      (given.getD world.shipped) value = .ok configuration := by
  rcases load_cases given world with ⟨fault, fails⟩ | ⟨_, _, content, -, ends⟩
  · rw [loads] at fails
    cases fails
  · rw [loads] at ends
    have holds : ofContent world.platform.interpreter
        (given.getD world.shipped) content = .ok configuration :=
      congrArg Prod.fst ends.symm
    rw [ofContent] at holds
    split at holds
    · cases holds
    · exact ⟨_, eq_ok_of_mapError holds⟩

/-- A configuration that has been loaded is sound. -/
theorem isSound_of_load {configuration : Configuration} {after : World}
    (loads : (Configuration.load given).run world =
      (.ok configuration, after)) :
    configuration.IsSound := by
  obtain ⟨value, accepted⟩ := exists_value_of_load loads
  exact (ofValue_eq_ok_iff.mp accepted).2

end Loading

section Answers

/-- A value is refused with a fault of configurations, or its containers are
nested too deeply for a text. -/
inductive Refuses (room : Nat) (value : Value) :
    Except Failure Configuration → Prop where
  | fault (fault : ConfigFault) :
      Refuses room value (.error (.configuration fault))
  | depth (deep : room < value.depth) :
      Refuses room value (.error (.reading .recursion))

theorem Refuses.ends {room : Nat} {value : Value}
    {result : Except Failure Configuration}
    (refused : Refuses room value result) :
    (∃ fault, result = .error (.configuration fault)) ∨
      result = .error (.reading .recursion) ∧ room < value.depth := by
  cases refused with
  | fault fault => exact .inl ⟨fault, rfl⟩
  | depth deep => exact .inr ⟨rfl, deep⟩

/-- The answer to a value is the sound configuration that the value gives, or
the value is refused. -/
structure Answers (room : Nat) (value : Value)
    (result : Except Failure Configuration) : Prop where
  ends : (∃ configuration, result = .ok configuration) ∨
    Refuses room value result
  accepted : ∀ configuration, result = .ok configuration ↔
    configuration.IsGivenBy room value ∧ configuration.IsSound

/-- The clauses around the reading leave nothing else. -/
theorem answers_ofValue (room : Nat) (path : PathName) (value : Value) :
    Answers room value ((ofValue room path value).mapError .ofReading) where
  ends := by
    obtain ⟨configuration, accepts⟩ | ⟨fault, refuses⟩ | ⟨escapes, deep⟩ :=
      ofValue_cases room path value
    · exact .inl ⟨configuration, by rw [accepts]; rfl⟩
    · rw [refuses]
      exact .inr (.fault fault)
    · rw [escapes]
      exact .inr (.depth deep)
  accepted configuration := by
    rw [mapError_eq_ok_iff, ofValue_eq_ok_iff]

section Contents

variable {interpreter : Interpreter} {bytes : List UInt8}

theorem failureIn_document (path : PathName) (fault : Yaml.Fault) :
    failureIn path (.document fault) =
      if fault = .malformed then .configuration (.malformed path)
      else .document fault := by
  cases fault <;> rfl

theorem ofContent_of_fault (path : PathName) {fault : Yaml.Fault}
    (fails : Yaml.load interpreter bytes = .error fault) :
    ofContent interpreter path bytes =
      .error (if fault = .malformed then .configuration (.malformed path)
        else .document fault) := by
  rw [ofContent, fails, ← failureIn_document]

theorem answers_ofContent (path : PathName) {value : Value}
    (parsed : Yaml.load interpreter bytes = .ok value) :
    Answers interpreter.texts value (ofContent interpreter path bytes) := by
  rw [ofContent, parsed]
  exact answers_ofValue _ path value

end Contents

/-- Whatever value the document of a configuration has, its loading ends with
the answer to this value. -/
theorem answers_load (given : Option PathName) {world after : World}
    {value : Value}
    (read : (Yaml.loadFile (given.getD world.shipped)).run
      (announced (given.getD world.shipped) world) = (.ok value, after)) :
    Answers world.platform.interpreter.texts value
      ((Configuration.load given).run world).1 := by
  rcases Yaml.loadFile_cases (given.getD world.shipped)
      (announced (given.getD world.shipped) world) with
    ⟨fault, fails⟩ | ⟨place, identity, content, valid, found, reads⟩
  · rw [read] at fails
    cases fails
  · rw [read, platform_announced] at reads
    have parsed : Yaml.load world.platform.interpreter content = .ok value :=
      eq_ok_of_mapError (congrArg Prod.fst reads.symm)
    rw [run_load valid found]
    exact answers_ofContent _ parsed

/-- Whatever value the document of a configuration has, if its containers are
nested at most 400 deep, then its loading ends with the sound configuration
that the value gives, or with a fault of configurations. -/
theorem load_answers_value (given : Option PathName) {world after : World}
    {value : Value}
    (read : (Yaml.loadFile (given.getD world.shipped)).run
      (announced (given.getD world.shipped) world) = (.ok value, after))
    (shallow : value.depth ≤ 400) :
    ((∃ configuration, ((Configuration.load given).run world).1 =
        .ok configuration) ∨
      ∃ fault, ((Configuration.load given).run world).1 =
        .error (.configuration fault)) ∧
    ∀ configuration,
      ((Configuration.load given).run world).1 = .ok configuration ↔
        configuration.IsGivenBy world.platform.interpreter.texts value ∧
          configuration.IsSound := by
  have answers := answers_load given read
  have enough := world.platform.interpreter.texts.property.1
  refine ⟨?_, answers.accepted⟩
  rcases answers.ends with accepted | refused
  · exact .inl accepted
  · rcases refused.ends with isFault | ⟨-, deep⟩
    · exact .inr isFault
    · omega

/-- The value of the document in the single file, if it passes a test. -/
theorem exists_value_singleFile (bytes : List UInt8) (test : Value → Bool)
    (passes : (Yaml.load .plain bytes).toOption.any test = true) :
    ∃ value, (Yaml.loadFile Dataset.singlePath).run
        (announced Dataset.singlePath (Dataset.singleFile bytes)) =
          (.ok value, Dataset.singleFile bytes) ∧
      test value = true := by
  have quiet : announced Dataset.singlePath (Dataset.singleFile bytes) =
      Dataset.singleFile bytes := rfl
  have reads : (Yaml.loadFile Dataset.singlePath).run
      (Dataset.singleFile bytes) =
        ((Yaml.load .plain bytes).mapError Failure.document,
          Dataset.singleFile bytes) :=
    Yaml.run_loadFile Dataset.check_singlePath (Dataset.find_singleFile bytes)
  rw [quiet, reads]
  cases loaded : Yaml.load .plain bytes with
  | error fault =>
      rw [loaded] at passes
      cases passes
  | ok value =>
      rw [loaded] at passes
      exact ⟨value, rfl, passes⟩

/-- A document with a list of nothing for the template, a number for the file
and a list for the truth value. -/
def oddDocument : List UInt8 := Utf8.encodeChars
  ("paths: \x7binput: a, output: b\x7d\ntemplate: []\n".toList ++
    "logging: \x7blevel: debug, file: 0, json: [0]\x7d\n".toList)

/-- The configuration of the document. -/
def oddConfiguration : Configuration where
  input := ⟨0, ["a"]⟩
  output := ⟨0, ["b"]⟩
  template := .standard
  logging := ⟨"DEBUG", none, true⟩

theorem load_oddDocument :
    ((Configuration.load (some Dataset.singlePath)).run
        (Dataset.singleFile oddDocument)).1 = .ok oddConfiguration := by
  decide +kernel

/-- The odd document is answered with the configuration that it gives. -/
theorem load_answers_oddDocument : ∃ value,
    (Yaml.loadFile Dataset.singlePath).run
        (announced Dataset.singlePath (Dataset.singleFile oddDocument)) =
      (.ok value, Dataset.singleFile oddDocument) ∧
    value.depth ≤ 400 ∧
    oddConfiguration.IsGivenBy Interpreter.plain.texts value ∧
    oddConfiguration.IsSound := by
  obtain ⟨value, read, isShallow⟩ := exists_value_singleFile oddDocument
    (fun value => value.depth ≤ 400) (by decide +kernel)
  have shallow : value.depth ≤ 400 := of_decide_eq_true isShallow
  have answers := load_answers_value (some Dataset.singlePath) read shallow
  exact ⟨value, read, shallow, (answers.2 _).mp load_oddDocument⟩

end Answers

end Configuration

end VestingContract
