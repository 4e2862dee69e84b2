import VestingContract.Dataset.Token

/-!
# Vesting entries and datasets

A dataset lists categories in order, each with its vesting entries in order.
-/

namespace VestingContract

/-- One linear vesting record. -/
structure Entry where
  address : Token
  amountAtStart : Token
  amountAtEnd : Token
  startDate : Token
  endDate : Token
  deriving DecidableEq, Repr

/-- Categories with their entries, in the order of the document. -/
abbrev Dataset := List (Text × List Entry)

namespace Dataset

def categories (dataset : Dataset) : List Text :=
  dataset.map Prod.fst

/-- The number of entries of all categories. -/
def total : Dataset → Nat
  | [] => 0
  | (_, entries) :: rest => entries.length + total rest

end Dataset
end VestingContract
