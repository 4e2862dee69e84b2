import VestingContract.Log.Line

/-!
# Logging

The state of logging: the least level of a record that is written, the
handlers that it is written to, and the fields that are added to it.
-/

namespace VestingContract

/-- Where records are written to.  A foreign handler has been attached by
somebody else and writes to a place of its own. -/
inductive Handler where
  | console (colored : Bool)
  | file (identity : Nat) (style : LineStyle)
  | foreign (identity : Nat)
  deriving DecidableEq, Repr

namespace Handler

/-- The handlers that a later setup replaces. -/
def isInstalled : Handler → Bool
  | console _ | file .. => true
  | foreign _ => false

def kind : Handler → Text
  | console _ => "StreamHandler"
  | file .. => "FileHandler"
  | foreign _ => "Handler"

end Handler

/-- The state of logging.  The values of the context are taken to have room in
a line: one that is nested more deeply would be raised out of the next call
that writes a record, which no record here does. -/
structure LogState where
  level : Int
  handlers : List Handler
  context : LogContext
  capturesWarnings : Bool
  reportsUncaught : Bool
  deriving Repr

/-- The level of warnings, from which on records are printed when there is no
handler. -/
def warningLevel : Int := 30

namespace LogState

/-- Nothing has been set up: warnings are printed, and nothing is added. -/
def initial : LogState where
  level := warningLevel
  handlers := []
  context := []
  capturesWarnings := false
  reportsUncaught := false

/-- Records of a level are written. -/
def isEnabled (state : LogState) (level : Int) : Bool :=
  0 < level && state.level ≤ level

/-- A state with more fields. -/
def push (state : LogState) (fields : LogContext) : LogState :=
  { state with context := state.context.extend fields }

/-- A state without the handlers of an earlier setup. -/
def withoutInstalled (state : LogState) : LogState :=
  { state with handlers := state.handlers.filter (!·.isInstalled) }

/-- A state with a level and with handlers behind the ones that are there. -/
def install (state : LogState) (level : Int) (handlers : List Handler) :
    LogState :=
  { state with level := level, handlers := state.handlers ++ handlers }

end LogState
end VestingContract
