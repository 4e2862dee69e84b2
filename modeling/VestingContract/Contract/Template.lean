import VestingContract.Text.CodePoint

/-!
# Contract templates

The names that the skeleton of a contract is filled in with.
-/

namespace VestingContract

/-- The names of a contract. -/
structure Template where
  license : Text
  pragma : Text
  importPath : Text
  contractName : Text
  libraryName : Text
  structName : Text
  arrayName : Text
  deriving DecidableEq, Repr

namespace Template

/-- The names of the deployed contract. -/
def standard : Template where
  license := "MIT"
  pragma := "^0.8.19"
  importPath := "src/token/AllocationVesting.sol"
  contractName := "GeneratedAllocations"
  libraryName := "AllocationVesting"
  structName := "LinearVesting"
  arrayName := "allAllocations"

instance : Inhabited Template := ⟨standard⟩

/-- The struct type with the library that declares it. -/
def vestingType (template : Template) : Text :=
  template.libraryName ++ "." ++ template.structName

end Template
end VestingContract
