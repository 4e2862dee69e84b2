import VestingContract.CommandLine.Options

/-!
# Usage of the command

What the command prints when it is asked for help or misunderstood.
-/

namespace VestingContract

/-- The two lines that name all options. -/
def usageText : Text :=
  "usage: allocgen [-h] [--config CONFIG] [--input INPUT] " ++
    "[--output OUTPUT]\n" ++
    "                [--log-level \x7bDEBUG,INFO,WARNING,ERROR\x7d] " ++
    "[--dry-run]\n"

/-- The lines that explain all options. -/
def helpText : Text :=
  usageText ++
    "\n" ++
    "Generate the allocation vesting contract\n" ++
    "\n" ++
    "options:\n" ++
    "  -h, --help            show this help message and exit\n" ++
    "  --config CONFIG, -c CONFIG\n" ++
    "                        Configuration file path (default: shipped\n" ++
    "                        generator.yaml)\n" ++
    "  --input INPUT, -i INPUT\n" ++
    "                        Allocation dataset (overrides paths.input)\n" ++
    "  --output OUTPUT, -o OUTPUT\n" ++
    "                        Generated contract path " ++
    "(overrides paths.output)\n" ++
    "  --log-level \x7bDEBUG,INFO,WARNING,ERROR\x7d\n" ++
    "                        Override logging.level\n" ++
    "  --dry-run             Print the contract to stdout " ++
    "instead of writing it\n"

/-- The lines that report a fault. -/
def UsageFault.report (fault : UsageFault) : Text :=
  usageText ++ "allocgen: error: " ++ fault.message ++ "\n"

end VestingContract
