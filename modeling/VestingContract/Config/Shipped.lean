/-!
# The shipped configuration

The document that holds the configuration of a call without one of its own.
-/

namespace VestingContract

/-- The content of the shipped configuration file. -/
def shippedConfiguration : String :=
  "# Allocation contract generator configuration.\n" ++
    "#\n" ++
    "# Relative paths resolve against the directory " ++
    "the generator runs from.\n" ++
    "\n" ++
    "paths:\n" ++
    "  input: data/allocations.json\n" ++
    "  output: generatedAllocations.sol\n" ++
    "\n" ++
    "template:\n" ++
    "  license: MIT\n" ++
    "  pragma: ^0.8.19\n" ++
    "  import_path: src/token/AllocationVesting.sol\n" ++
    "  contract_name: GeneratedAllocations\n" ++
    "  library_name: AllocationVesting\n" ++
    "  struct_name: LinearVesting\n" ++
    "  array_name: allAllocations\n" ++
    "\n" ++
    "logging:\n" ++
    "  level: INFO\n" ++
    "  file: null\n" ++
    "  json: false\n"

end VestingContract
