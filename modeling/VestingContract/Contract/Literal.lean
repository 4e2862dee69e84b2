import VestingContract.Value.Basic

/-!
# Literals of contracts

The spelling of a decoded value in a contract.  Only the values that a token
may hold have one.
-/

namespace VestingContract

/-- Why a value has no spelling in a contract. -/
inductive LiteralFault where
  | unsupported (kind : Text)
  | unspellable (fault : UnspellableWhole)
  deriving DecidableEq, Repr

def LiteralFault.message : LiteralFault → Text
  | unsupported kind => "Cannot render literal of type " ++ kind
  | unspellable fault => fault.message

namespace Value

/-- A value that a token may hold, as that token. -/
def token? : Value → Option Token
  | bool truth => some (.bool truth)
  | int whole => some (.int whole)
  | text content => some (.text content)
  | literal lexeme => some (.number lexeme)
  | _ => none

/-- A value as it stands in a contract. -/
def spell (value : Value) : Except LiteralFault Text :=
  match value.token? with
  | none => .error (.unsupported value.kind)
  | some token => token.spell.mapError .unspellable

/-- The value of a token holds that token. -/
theorem token?_ofToken (token : Token) :
    (ofToken token).token? = some token := by
  cases token <;> rfl

end Value
end VestingContract
