import VestingContract.Proofs.Log.JsonLines

/-!
# Fields of one name

The fields of a record, of the context and of the exception share the names of
one JSON object.  Under each name stands the exception, if the name is its
own, then what was last pushed, and the field of the record only if nothing
was pushed under its name.  So a field of the record is shown as it is just if
no other value was pushed under its name, and a pushed field is missing just if
the exception takes its name.
-/

namespace VestingContract

/-- The value that was last written under a name. -/
def LogContext.last? (written : LogContext) (name : Text) : Option Value :=
  written.reverse.lookup name

namespace Record

variable {record : Record} {time message : Text}
  {pushed context members : LogContext}

section Lookups

theorem nodup_ownFields :
    ((record.ownFields time message).map Prod.fst).Nodup := by
  change ([("t" : Text), "lvl", "name", "msg"] : List Text).Nodup
  decide

/-- The record has no field of its own under the name of the exception. -/
theorem lookup_exceptionFields_of_mem {field : Text × Value}
    (isOwn : field ∈ record.ownFields time message) :
    record.exceptionFields.lookup field.1 = none := by
  have apart : ∀ name ∈ (record.ownFields time message).map Prod.fst,
      (name == ("exc" : Text)) = false := by
    change ∀ name ∈ ([("t" : Text), "lvl", "name", "msg"] : List Text), _
    decide
  rw [exceptionFields]
  cases record.exception with
  | none => rfl
  | some exception =>
      have isApart := apart field.1 (List.mem_map_of_mem isOwn)
      rw [Option.map_some, Option.toList_some, List.lookup_cons, isApart]
      rfl

theorem nodup_exceptionFields :
    (record.exceptionFields.map Prod.fst).Nodup := by
  rw [exceptionFields]
  cases record.exception with
  | none => exact List.nodup_nil
  | some exception => exact List.nodup_singleton _

theorem reverse_exceptionFields :
    record.exceptionFields.reverse = record.exceptionFields := by
  rw [exceptionFields]
  cases record.exception <;> rfl

/-- Under a name stands the exception, else what was last pushed, else the
record's own field. -/
theorem lookup_of_keeps
    (keeps : LogContext.Keeps members
      (record.writtenFields time message pushed)) (name : Text) :
    members.lookup name =
      (record.exceptionFields.lookup name).or
        ((pushed.last? name).or
          ((record.ownFields time message).lookup name)) := by
  rw [keeps.values, writtenFields, List.reverse_append, List.reverse_append,
    List.lookup_append, List.lookup_append, reverse_exceptionFields,
    lookup_reverse_of_nodup nodup_ownFields]
  rfl

theorem lookup_own (keeps : LogContext.Keeps members
      (record.writtenFields time message pushed)) {field : Text × Value}
    (isOwn : field ∈ record.ownFields time message) :
    members.lookup field.1 =
      some ((pushed.last? field.1).getD field.2) := by
  rw [lookup_of_keeps keeps, lookup_exceptionFields_of_mem isOwn,
    lookup_of_mem nodup_ownFields isOwn, Option.none_or]
  cases pushed.last? field.1 <;> rfl

end Lookups

section Showing

/-- The members of a line show the fields of a record as they are. -/
def ShowsOwn (record : Record) (time message : Text)
    (members : LogContext) : Prop :=
  ∀ field ∈ record.ownFields time message,
    members.lookup field.1 = some field.2

/-- The members of a line show what was last pushed under each name. -/
def ShowsPushed (pushed members : LogContext) : Prop :=
  ∀ name value, pushed.last? name = some value →
    members.lookup name = some value

/-- Nothing but their own values was last pushed under the names of fields. -/
def Spares (pushed fields : LogContext) : Prop :=
  ∀ field ∈ fields, ∀ value, pushed.last? field.1 = some value →
    value = field.2

theorem showsOwn_iff (keeps : LogContext.Keeps members
      (record.writtenFields time message pushed)) :
    record.ShowsOwn time message members ↔
      Spares pushed (record.ownFields time message) := by
  refine forall₂_congr fun field isOwn => ?_
  rw [lookup_own keeps isOwn, Option.some_inj]
  cases pushed.last? field.1 <;> simp

theorem showsPushed_iff (keeps : LogContext.Keeps members
      (record.writtenFields time message pushed)) :
    ShowsPushed pushed members ↔ Spares pushed record.exceptionFields := by
  constructor
  · intro shows field isException value isPushed
    have shown := shows field.1 value isPushed
    rw [lookup_of_keeps keeps,
      lookup_of_mem nodup_exceptionFields isException] at shown
    exact (Option.some.inj shown).symm
  · intro spares name value isPushed
    rw [lookup_of_keeps keeps, isPushed]
    cases found : record.exceptionFields.lookup name with
    | none => rfl
    | some shown =>
        obtain ⟨_, _, parts, -⟩ := List.lookup_eq_some_iff.mp found
        have isException : (name, shown) ∈ record.exceptionFields := by
          rw [parts]
          exact List.mem_append_right _ List.mem_cons_self
        exact congrArg some (spares _ isException value isPushed).symm

/-- The line of a record over what has been pushed: the mapping of its members
is written, each name has one value, and the line is read back as the members
if everything has the notation of documents and is not nested too deeply for
it to be written. -/
structure ShowsFields (record : Record) (time message : Text)
    (context pushed members : LogContext) : Prop where
  written : record.jsonLine context =
    (Value.map (namedPairs members)).toJson.mapError .document
  names : members.map Prod.fst =
    ((record.writtenFields time message pushed).map Prod.fst).eraseDups
  values : ∀ name, members.lookup name =
    (record.exceptionFields.lookup name).or
      ((pushed.last? name).or ((record.ownFields time message).lookup name))
  ownValues : ∀ field ∈ record.ownFields time message,
    members.lookup field.1 = some ((pushed.last? field.1).getD field.2)
  showsOwn : record.ShowsOwn time message members ↔
    Spares pushed (record.ownFields time message)
  showsPushed : ShowsPushed pushed members ↔ Spares pushed record.exceptionFields
  told : ∀ Doubles, ∀ depth ≤ 400, record.IsWhole message →
    (∀ field ∈ pushed, field.1.IsWhole ∧ field.2.IsNotated Doubles depth) →
    ∃ line, record.jsonLine context = .ok line ∧
      Tells Doubles depth line members

theorem showsFields_members (stamped : stamp record.created = .ok time)
    (formatted : record.messageText = .ok message)
    (keeps : LogContext.Keeps context pushed) :
    record.ShowsFields time message context pushed
      (record.members time message context) := by
  have kept : LogContext.Keeps (record.members time message context)
      (record.writtenFields time message pushed) := keeps_members keeps
  constructor
  case written =>
    rw [jsonLine, stamped, formatted]
    rfl
  case names => exact kept.names
  case values => exact lookup_of_keeps kept
  case ownValues => exact fun _ isOwn => lookup_own kept isOwn
  case showsOwn => exact showsOwn_iff kept
  case showsPushed => exact showsPushed_iff kept
  case told =>
    exact fun Doubles depth _ whole notated =>
      exists_jsonLine_tells whole stamped formatted keeps notated

end Showing

end Record

end VestingContract
