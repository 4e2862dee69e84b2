import VestingContract.Contract.Template
import VestingContract.Dataset.Entry

/-!
# Rendering contracts

A contract declares an array of the size of its dataset and pushes one struct
for each entry, grouped by category.  Tokens are copied without quotes or
escapes.  A generator counts the statements that it writes and refuses a
contract that does not fill its array.
-/

namespace VestingContract

/-- Why no contract is rendered. -/
inductive RenderFault where
  | unspellable (fault : UnspellableWhole)
  | unfilled (declared emitted : Nat)
  deriving DecidableEq, Repr

def RenderFault.message : RenderFault → Text
  | unspellable fault => fault.message
  | unfilled declared emitted =>
      "Declared " ++ Text.ofNat declared ++ " allocations but emitted " ++
        Text.ofNat emitted ++ " push statements"

/-- The arguments of an entry's struct.  The amount at the end stands before
the amount at the start. -/
def Entry.arguments (entry : Entry) :
    Except UnspellableWhole (List Text) :=
  [entry.address, entry.amountAtEnd, entry.amountAtStart, entry.startDate,
    entry.endDate].mapM Token.spell

def Template.pushStatement (template : Template) (entry : Entry) :
    Except UnspellableWhole Text := do
  let arguments ← entry.arguments
  return template.arrayName ++ ".push(" ++ template.vestingType ++ "(" ++
    Text.join ", " arguments ++ "));"

/-- The lines before the array. -/
def Template.header (template : Template) : Text :=
  "// SPDX-License-Identifier: " ++ template.license ++ "\n" ++
    "pragma solidity " ++ template.pragma ++ ";\n" ++
    "\n" ++
    "import \"" ++ template.importPath ++ "\";\n" ++
    "\n" ++
    "contract " ++ template.contractName ++ " \x7b\n" ++
    "   \n" ++
    "\n"

/-- The line that declares the array and its size. -/
def Template.declaration (template : Template) (size : Nat) : Text :=
  "   " ++ template.vestingType ++ "[] public " ++ template.arrayName ++
    " = new " ++ template.vestingType ++ "[](" ++ Text.ofNat size ++ ");\n" ++
    "\n"

def categoryComment (category : Text) : Text :=
  "        // " ++ category ++ " allocations\n"

/-- The line behind a category. -/
def categorySeparator : Text := "   \n"

/-- The lines behind the last category. -/
def contractFooter : Text := "    \x7d\n\x7d\n"

def Template.pushLine (template : Template) (entry : Entry) :
    Except UnspellableWhole Text := do
  return "        " ++ (← template.pushStatement entry) ++ "\n"

/-- A generator with its template and the number of statements that it has
written since it last began a contract. -/
structure Generator where
  template : Template
  pushed : Nat
  deriving DecidableEq, Repr

/-- A notice about the progress of a rendering. -/
inductive RenderNotice where
  | total (count : Nat)
  | category (count : Nat) (name : Text)
  deriving DecidableEq, Repr

/-- What a rendering leaves behind: the generator, the notices in order, and
a text or a fault. -/
structure Rendering where
  generator : Generator
  notices : List RenderNotice
  outcome : Except RenderFault Text

namespace Generator

/-- A generator that has written nothing. -/
def new (template : Template) : Generator := ⟨template, 0⟩

/-- Write the lines of entries one by one, counting the statements.  The
count includes what was written before a token that cannot be spelled. -/
def writeEntries (generator : Generator) :
    List Entry → Generator × Except UnspellableWhole Text
  | [] => (generator, .ok [])
  | entry :: entries =>
      match generator.template.pushLine entry with
      | .error fault => (generator, .error fault)
      | .ok line =>
          let (generator, rest) := writeEntries
            { generator with pushed := generator.pushed + 1 } entries
          (generator, rest.map (line ++ ·))

/-- Write categories one by one.  The entries of a dropped category are left
out. -/
def writeCategories (generator : Generator) (dropped : List Text) :
    Dataset → Generator × List RenderNotice × Except UnspellableWhole Text
  | [] => (generator, [], .ok [])
  | (category, entries) :: rest =>
      let kept := if category ∈ dropped then [] else entries
      match generator.writeEntries kept with
      | (generator, .error fault) => (generator, [], .error fault)
      | (generator, .ok lines) =>
          let notice := RenderNotice.category kept.length category
          let (generator, notices, text) :=
            generator.writeCategories dropped rest
          (generator, notice :: notices, text.map fun text =>
            categoryComment category ++ lines ++ categorySeparator ++ text)

/-- Render a dataset without the entries of the dropped categories.  The
array is declared for all entries. -/
def generate (generator : Generator) (dropped : List Text)
    (dataset : Dataset) : Rendering :=
  let total := dataset.total
  let fresh := { generator with pushed := 0 }
  let (finished, notices, body) := fresh.writeCategories dropped dataset
  { generator := finished
    notices := .total total :: notices
    outcome :=
      match body with
      | .error fault => .error (.unspellable fault)
      | .ok body =>
          if finished.pushed = total then
            .ok (generator.template.header ++
              generator.template.declaration total ++
              "    constructor() \x7b\n" ++ body ++ contractFooter)
          else
            .error (.unfilled total finished.pushed) }

end Generator

/-- Render a dataset with a fresh generator. -/
def renderContract (template : Template) (dataset : Dataset) :
    Except RenderFault Text :=
  ((Generator.new template).generate [] dataset).outcome

end VestingContract
