import VestingContract.Number.Reading

/-!
# Tokens

The values that a vesting entry is made of.  A number read from a document
keeps the text that it was written with, and every token is spelled in the
contract without conversion.
-/

namespace VestingContract

/-- A literal value of an entry. -/
inductive Token where
  | bool (truth : Bool)
  | int (whole : Int)
  | text (content : Text)
  | number (lexeme : Text)
  deriving DecidableEq, Repr

/-- A token as it stands in the contract.  An integer is spelled in decimal
digits, of which there may be too many. -/
def Token.spell : Token → Except UnspellableWhole Text
  | bool truth => .ok (if truth then "true" else "false")
  | int whole => spellWhole whole
  | text content => .ok content
  | number lexeme => .ok lexeme

/-- Only an integer of too many digits cannot be spelled. -/
theorem Token.spell_eq_error_iff (token : Token) (fault : UnspellableWhole) :
    token.spell = .error fault ↔
      ∃ whole, token = .int whole ∧ raise 10 digitLimit ≤ whole.natAbs := by
  cases token with
  | bool truth => simp [spell]
  | text content => simp [spell]
  | number lexeme => simp [spell]
  | int whole =>
      by_cases tooLong : raise 10 digitLimit ≤ whole.natAbs <;>
        simp [spell, spellWhole, tooLong]

end VestingContract
