import VestingContract.Proofs.Log.Fields
import VestingContract.Proofs.Log.Values
import VestingContract.Proofs.Run.Results
import VestingContract.Run.LogSetup

/-!
# JSON log lines

A record is written as one JSON object in printable ASCII, whatever characters
its message, the name of its logger, its exception and the context hold.
Decoding the line gives back the fields of the record, those of the context
and the exception: each name where it was first written, with the value that
was last written under it.
-/

namespace VestingContract

open Stateful

section Stamps

variable {text rest : Text}

theorem Text.IsWhole.append (whole : text.IsWhole) (others : rest.IsWhole) :
    (text ++ rest).IsWhole := by
  obtain ⟨chars, rfl⟩ := whole
  obtain ⟨others, rfl⟩ := others
  exact ⟨chars ++ others, (ofChars_append chars others).symm⟩

theorem Text.isWhole_ofString (string : String) : (ofString string).IsWhole :=
  ⟨string.toList, rfl⟩

theorem Text.isWhole_padLeft_ofNat (width number : Nat) :
    (padLeft width (.scalar '0') (ofNat number)).IsWhole := by
  have fill : Text.IsWhole
      (List.replicate (width - (ofNat number).length) (.scalar '0')) :=
    ⟨List.replicate (width - (ofNat number).length) '0', by
      rw [ofChars, List.map_replicate]⟩
  exact fill.append ⟨_, rfl⟩

/-- A stamp is made of digits and of the signs between them. -/
theorem isWhole_stamp {seconds : Value} {time : Text}
    (stamped : stamp seconds = .ok time) : time.IsWhole := by
  obtain ⟨microseconds, -, stamped⟩ := exists_of_bind_eq_ok stamped
  simp only [stampOfMicroseconds] at stamped
  split at stamped
  · cases stamped
  · obtain ⟨year, -, written⟩ := exists_of_bind_eq_ok stamped
    rw [← Except.ok.inj written]
    have digits : ∀ number, (Moment.twoDigits number).IsWhole :=
      Text.isWhole_padLeft_ofNat 2
    have milliseconds := Text.isWhole_padLeft_ofNat 3
    have sign := Text.isWhole_ofString
    have ofYear : (Text.ofNat year).IsWhole := ⟨_, rfl⟩
    exact ((((((((((((ofYear.append (sign _)).append (digits _)).append
      (sign _)).append (digits _)).append (sign _)).append (digits _)).append
      (sign _)).append (digits _)).append (sign _)).append (digits _)).append
      (sign _)).append (milliseconds _)).append (sign _)

end Stamps

namespace Record

variable {record : Record} {time message : Text} {context written : LogContext}

/-- The four fields of a record itself. -/
def ownFields (record : Record) (time message : Text) : LogContext :=
  [("t", .text time), ("lvl", .text record.levelName),
    ("name", .text record.logger), ("msg", .text message)]

/-- The field of the exception, if there is one. -/
def exceptionFields (record : Record) : LogContext :=
  (record.exception.map fun exception =>
    (("exc" : Text), Value.text exception)).toList

/-- All that is written to a line, one field after the other. -/
def writtenFields (record : Record) (time message : Text)
    (context : LogContext) : LogContext :=
  record.ownFields time message ++ context ++ record.exceptionFields

/-- The texts of a record hold no lone surrogates. -/
structure IsWhole (record : Record) (message : Text) : Prop where
  levelName : record.levelName.IsWhole
  logger : record.logger.IsWhole
  message : message.IsWhole
  exception : ∀ exception ∈ record.exception, exception.IsWhole

/-- A line is written in printable ASCII, and reading and decoding it gives a
mapping that keeps the fields that have been written. -/
structure Shows (line : Text) (written : LogContext) : Prop where
  printable : line.all CodePoint.isAsciiPrintable = true
  decoded : ∃ chars document members, line = Text.ofChars chars ∧
    (∀ limit, 400 < limit → Json.read limit chars = .ok document) ∧
    (∀ ofNumber, Json.ReadsWholes ofNumber →
      document.toValue ofNumber = .map (namedPairs members)) ∧
    LogContext.Keeps members written

theorem members_eq_extend :
    record.members time message context =
      ((record.ownFields time message).extend context).extend
        record.exceptionFields := by
  rw [members, exceptionFields]
  cases record.exception with
  | none => rfl
  | some exception => rfl

/-- The members of a line keep what has been written to the context and to
the line. -/
theorem keeps_members (keeps : LogContext.Keeps context written) :
    LogContext.Keeps (record.members time message context)
      (record.writtenFields time message written) := by
  have own : LogContext.Keeps (record.ownFields time message)
      (record.ownFields time message) :=
    LogContext.keeps_nil.extend (record.ownFields time message)
  rw [members_eq_extend, writtenFields]
  exact ((own.extend context).trans keeps).extend record.exceptionFields

/-- A line is written in printable ASCII, and reading and decoding it gives
members. -/
structure Tells (Doubles : Binary64 → Prop) (depth : Nat) (line : Text)
    (members : LogContext) : Prop where
  printable : line.all CodePoint.isAsciiPrintable = true
  decoded : ∃ chars document, line = Text.ofChars chars ∧
    (∀ limit, depth < limit → Json.read limit chars = .ok document) ∧
    ∀ ofNumber, Json.ReadsNumbers Doubles ofNumber →
      document.toValue ofNumber = .map (namedPairs members)

variable {Doubles : Binary64 → Prop} {depth : Nat}

/-- What is written to a line has the notation of documents. -/
theorem isNotated_writtenFields (whole : record.IsWhole message)
    (stamped : stamp record.created = .ok time)
    (notated : ∀ field ∈ written,
      field.1.IsWhole ∧ field.2.IsNotated Doubles depth) :
    ∀ field ∈ record.writtenFields time message written,
      field.1.IsWhole ∧ field.2.IsNotated Doubles depth := by
  have named : ∀ name : String, (Text.ofString name).IsWhole :=
    Text.isWhole_ofString
  have own : ∀ field ∈ record.ownFields time message,
      field.1.IsWhole ∧ field.2.IsNotated Doubles depth := by
    simp only [ownFields, List.forall_mem_cons]
    exact ⟨⟨named _, .text (isWhole_stamp stamped)⟩,
      ⟨named _, .text whole.levelName⟩, ⟨named _, .text whole.logger⟩,
      ⟨named _, .text whole.message⟩, List.forall_mem_nil _⟩
  have exception : ∀ field ∈ record.exceptionFields,
      field.1.IsWhole ∧ field.2.IsNotated Doubles depth := by
    intro field member
    obtain ⟨exception, isException, rfl⟩ :=
      Option.map_eq_some_iff.mp (Option.mem_toList.mp member)
    exact ⟨named _, .text (whole.exception exception isException)⟩
  rw [writtenFields, List.forall_mem_append, List.forall_mem_append]
  exact ⟨⟨own, notated⟩, exception⟩

/-- The line of a record tells its members. -/
theorem exists_jsonLine_tells (whole : record.IsWhole message)
    (stamped : stamp record.created = .ok time)
    (formatted : record.messageText = .ok message)
    (keeps : LogContext.Keeps context written)
    (notated : ∀ field ∈ written,
      field.1.IsWhole ∧ field.2.IsNotated Doubles depth) :
    ∃ line, record.jsonLine context = .ok line ∧
      Tells Doubles depth line (record.members time message context) := by
  have kept : LogContext.Keeps (record.members time message context)
      (record.writtenFields time message written) := keeps_members keeps
  have fields := isNotated_writtenFields whole stamped notated
  have isNotated : Value.IsNotated Doubles (depth + 1)
      (.map (namedPairs (record.members time message context))) := by
    apply Value.IsNotated.map kept.nodup
    · exact fun field member => (fields field (kept.mem member)).1
    · exact fun field member => (fields field (kept.mem member)).2
  obtain ⟨⟨document, chars⟩, isWritten⟩ := isNotated.exists_isWritten
  refine ⟨Text.ofChars chars, ?_, ?_⟩
  · rw [jsonLine, stamped, formatted]
    have toJson := isWritten.written
    rw [namedPairs] at toJson
    simp only [Except.mapError, bind, Except.bind, toJson]
  · refine ⟨Json.all_of_isPrintable isWritten.spells.printable,
      chars, document, rfl, fun limit more => ?_, isWritten.decoded⟩
    exact Json.read_of_isSpelledBy isWritten.spells.spelled
      (le_trans isWritten.depth more)

/-- The line of a record shows what has been written. -/
theorem exists_jsonLine_shows (whole : record.IsWhole message)
    (stamped : stamp record.created = .ok time)
    (formatted : record.messageText = .ok message)
    (keeps : LogContext.Keeps context written)
    (loggable : ∀ field ∈ written,
      field.1.IsWhole ∧ field.2.IsLoggable 400) :
    ∃ line, record.jsonLine context = .ok line ∧
      Shows line (record.writtenFields time message written) := by
  have notated : ∀ field ∈ written,
      field.1.IsWhole ∧ field.2.IsNotated (fun _ => False) 400 :=
    fun field member => ⟨(loggable field member).1,
      (loggable field member).2.isNotated _⟩
  obtain ⟨line, isLine, tells⟩ :=
    exists_jsonLine_tells whole stamped formatted keeps notated
  obtain ⟨chars, document, spelled, read, decoded⟩ := tells.decoded
  refine ⟨line, isLine, tells.printable, chars, document, _, spelled, read,
    fun ofNumber wholes => decoded ofNumber ⟨wholes, ?_⟩, keeps_members keeps⟩
  exact fun _ _ isNone => isNone.elim

end Record

section Pushes

variable {world : World}

theorem ofPairs?_namedPairs (fields : LogContext) :
    LogContext.ofPairs? (namedPairs fields) = some fields := by
  rw [LogContext.ofPairs?, namedPairs]
  induction fields with
  | nil => rfl
  | cons field fields ih =>
      rw [List.map_cons, List.mapM_cons, ih]
      rfl

/-- Pushing fields, as often as one likes, keeps in the context what has been
pushed. -/
theorem run_pushes {written : LogContext} (pushes : List LogContext)
    (keeps : LogContext.Keeps world.logging.context written) :
    ∃ after, (pushes.forM fun fields =>
        Action.pushContext (namedPairs fields)).run world = (.ok ⟨⟩, after) ∧
      LogContext.Keeps after.logging.context (written ++ pushes.flatten) := by
  -- What has been pushed so far is the invariant, so it is general.
  induction pushes generalizing world written with
  | nil =>
      rw [List.flatten_nil, List.append_nil]
      exact ⟨world, rfl, keeps⟩
  | cons fields pushes ih =>
      have first : (Action.pushContext (namedPairs fields)).run world =
          (.ok ⟨⟩, { world with logging := world.logging.push fields }) := by
        rw [Action.pushContext, ofPairs?_namedPairs]
        rfl
      obtain ⟨after, later, others⟩ := @ih
        { world with logging := world.logging.push fields } _
        (keeps.extend fields)
      refine ⟨after, ?_, ?_⟩
      · exact (run_bind_of_ok first _).trans later
      · rwa [List.flatten_cons, ← List.append_assoc]

/-- Over any pushes and for every record with a stamp and a message, the JSON
line is written in printable ASCII, and it is decoded to the fields of the
record, then the pushed ones, then the exception: each name where it was first
written, with the value that was last written. -/
theorem jsonLine_shows_pushed_fields {pushes : List LogContext}
    {record : Record} {time message : Text}
    (unset : world.logging.context = [])
    (loggable : ∀ fields ∈ pushes, ∀ field ∈ fields,
      field.1.IsWhole ∧ field.2.IsLoggable 400)
    (whole : record.IsWhole message)
    (stamped : stamp record.created = .ok time)
    (formatted : record.messageText = .ok message) :
    ∃ after line, (pushes.forM fun fields =>
        Action.pushContext (namedPairs fields)).run world = (.ok ⟨⟩, after) ∧
      record.jsonLine after.logging.context = .ok line ∧
      Record.Shows line
        (record.writtenFields time message pushes.flatten) := by
  have keepsNothing : LogContext.Keeps world.logging.context [] := by
    rw [unset]
    exact LogContext.keeps_nil
  obtain ⟨after, pushed, keeps⟩ := run_pushes pushes keepsNothing
  have all : ∀ field ∈ pushes.flatten,
      field.1.IsWhole ∧ field.2.IsLoggable 400 := by
    intro field member
    obtain ⟨fields, isPush, inPush⟩ := List.mem_flatten.mp member
    exact loggable fields isPush field inPush
  obtain ⟨line, written, isShown⟩ :=
    Record.exists_jsonLine_shows whole stamped formatted keeps all
  exact ⟨after, line, pushed, written, isShown⟩

end Pushes

section Collisions

/-- Pushes that hold a character beyond sixteen bits, a field that is pushed
twice and one with the name of a record's own. -/
def collidingPushes : List LogContext :=
  [[("run", .int (-1)),
      ("tags", .list [.text [.scalar (Char.ofNat 0x1F600), Text.lineFeed],
        .null])],
    [("msg", .text "pushed"),
      ("run", .map (namedPairs [("on", .bool true)]))]]

/-- What is reported of an exception, with the call that led to it. -/
def reportedTrace : Text :=
  "Traceback (most recent call last):\n  File \"app.py\", line 3\n" ++
    "ValueError: no value"

/-- A record with a quoted message of two lines and an exception. -/
def quotingRecord : Record where
  created := .int 0
  levelName := "INFO"
  logger := "app"
  message := "a \"line\"\nand more"
  arguments := .sequence []
  exception := some reportedTrace

theorem isLoggable_collidingPushes :
    ∀ fields ∈ collidingPushes, ∀ field ∈ fields,
      field.1.IsWhole ∧ field.2.IsLoggable 400 := by
  have named : ∀ name : String, (Text.ofString name).IsWhole :=
    Text.isWhole_ofString
  have tags : Value.IsLoggable 400 (.list
      [.text [.scalar (Char.ofNat 0x1F600), Text.lineFeed], .null]) := by
    apply Value.IsLoggable.list
    simp only [List.forall_mem_cons]
    exact ⟨.text ⟨[Char.ofNat 0x1F600, '\n'], rfl⟩, .null,
      List.forall_mem_nil _⟩
  have run : Value.IsLoggable 400 (.map (namedPairs [("on", .bool true)])) := by
    apply Value.IsLoggable.map
    · decide
    · exact List.forall_mem_singleton.mpr (named _)
    · exact List.forall_mem_singleton.mpr (.bool true)
  simp only [collidingPushes, List.forall_mem_cons]
  exact ⟨⟨⟨named _, .int (by decide)⟩, ⟨named _, tags⟩, List.forall_mem_nil _⟩,
    ⟨⟨named _, .text (named _)⟩, ⟨named _, run⟩, List.forall_mem_nil _⟩,
    List.forall_mem_nil _⟩

/-- The pushed message takes the place of the record's own. -/
theorem jsonLine_shows_collidingPushes : ∃ after line,
    (collidingPushes.forM fun fields =>
        Action.pushContext (namedPairs fields)).run (Dataset.singleFile []) =
      (.ok ⟨⟩, after) ∧
    quotingRecord.jsonLine after.logging.context = .ok line ∧
    Record.Shows line
      (quotingRecord.writtenFields "1970-01-01T00:00:00.000Z"
        quotingRecord.message collidingPushes.flatten) := by
  have named : ∀ name : String, (Text.ofString name).IsWhole :=
    Text.isWhole_ofString
  have whole : quotingRecord.IsWhole quotingRecord.message := by
    refine ⟨named _, named _, named _, ?_⟩
    rintro exception ⟨⟩
    exact (named _).append (named _)
  exact jsonLine_shows_pushed_fields rfl isLoggable_collidingPushes whole
    (by decide +kernel) rfl

end Collisions

end VestingContract
