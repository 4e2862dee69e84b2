import VestingContract.Value.Display

/-!
# Reported exceptions

An exception is reported by the calls that led to it, the name of its kind and
its text, which its arguments determine.
-/

namespace VestingContract

/-- The kinds of exceptions that are reported. -/
inductive ExceptionKind where
  | value
  | key
  | runtime
  | system
  | interrupt
  | configuration
  deriving DecidableEq, Repr

/-- An exception with its arguments and with the lines that are reported in
front of it: the calls that led to it and the exceptions before it. -/
structure ExceptionReport where
  kind : ExceptionKind
  arguments : List Value
  trace : Text := []
  deriving Repr

namespace ExceptionReport

open Value (shownRoom)

/-- The kinds of system errors that have a name of their own, by number. -/
def systemKinds : List (Int × Text) :=
  [(1, "PermissionError"), (2, "FileNotFoundError"),
    (3, "ProcessLookupError"), (4, "InterruptedError"),
    (10, "ChildProcessError"), (11, "BlockingIOError"),
    (13, "PermissionError"), (17, "FileExistsError"),
    (20, "NotADirectoryError"), (21, "IsADirectoryError"),
    (32, "BrokenPipeError"), (103, "ConnectionAbortedError"),
    (104, "ConnectionResetError"), (108, "BrokenPipeError"),
    (110, "TimeoutError"), (111, "ConnectionRefusedError"),
    (114, "BlockingIOError"), (115, "BlockingIOError")]

/-- A system error has two to five arguments, the first one its number. -/
def hasSystemForm (report : ExceptionReport) : Bool :=
  report.kind == .system && 2 ≤ report.arguments.length &&
    report.arguments.length ≤ 5

/-- The name of the kind of an exception. -/
def kindName (report : ExceptionReport) : Text :=
  match report.kind with
  | .value => "ValueError"
  | .key => "KeyError"
  | .runtime => "RuntimeError"
  | .interrupt => "KeyboardInterrupt"
  | .configuration => "allocgen.configs.loader.ConfigError"
  | .system =>
      let number : Option Int :=
        match report.arguments.head? with
        | some (.int whole) => some whole
        | some (.bool truth) => some (if truth then 1 else 0)
        | _ => none
      if report.hasSystemForm then
        ((number.bind fun number =>
          systemKinds.lookup number)).getD "OSError"
      else
        "OSError"

/-- The text of a system error: its number, its wording and the files that
it names. -/
def systemText (number wording : Value) (files : List Value) :
    Except ShowFault Text := do
  let lead := "[Errno " ++ (← number.display shownRoom) ++ "] " ++
    (← wording.display shownRoom)
  match files with
  | [] => return lead
  | [file] => return lead ++ ": " ++ (← file.quoted shownRoom)
  | file :: target :: _ =>
      let lead := lead ++ ": " ++ (← file.quoted shownRoom)
      return lead ++ " -> " ++ (← target.quoted shownRoom)

/-- The files that a system error names; the fourth argument names none. -/
def namedFiles : List Value → List Value
  | [] | .null :: _ => []
  | file :: _ :: .null :: _ => [file]
  | file :: _ :: target :: _ => [file, target]
  | file :: _ => [file]

def text (report : ExceptionReport) : Except ShowFault Text :=
  match report.kind, report.arguments with
  | .system, number :: wording :: files =>
      if report.hasSystemForm then
        systemText number wording (namedFiles files)
      else
        (Value.tuple report.arguments).quoted shownRoom
  | _, [] => .ok []
  | .key, [argument] => argument.quoted shownRoom
  | _, [argument] => argument.display shownRoom
  | _, arguments => (Value.tuple arguments).quoted shownRoom

/-- The kind of an exception and its text, unless that is empty. -/
def summary (report : ExceptionReport) : Text :=
  match report.text with
  | .error _ => report.kindName ++ ": <exception str() failed>"
  | .ok [] => report.kindName
  | .ok content => report.kindName ++ ": " ++ content

/-- All that is reported of an exception. -/
def formatted (report : ExceptionReport) : Text :=
  report.trace ++ report.summary

end ExceptionReport
end VestingContract
