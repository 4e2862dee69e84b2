import VestingContract.Run.Load

/-!
# Generating contracts

A run loads a dataset, renders its contract and writes it.  Nothing is
written unless the whole contract has been rendered.  The dataset may come
from memory instead of a file, and so may the contract stay there.
-/

namespace VestingContract

/-- Where a run takes its dataset from. -/
inductive Source where
  | file
  | given (value : Value)
  | failing (message : Text)
  deriving Repr

/-- Where a run puts its contract. -/
inductive Sink where
  | file
  | memory
  | failing (message : Text)
  deriving DecidableEq, Repr

/-- What a run has generated. -/
structure Generation where
  input : PathName
  output : PathName
  total : Nat
  categories : List Text
  text : Text
  deriving DecidableEq, Repr

namespace Action

/-- Note the use of an endpoint in memory. -/
def noteUse (use : EndpointUse) : Action Unit :=
  modify fun world => { world with uses := world.uses ++ [use] }

/-- Replace the file at a path by a text. -/
def replaceText (path : PathName) (text : Text) : Action Unit := do
  onFiles (FileAction.replaceText (← get).platform.device path text)
  log 10 "allocgen.utils.fs" "Wrote %d characters to %s"
    [.int text.length, .text path.toText]

/-- Log what rendering tells. -/
def logNotice (notice : RenderNotice) : Action Unit :=
  let logger := "allocgen.codegen.generator"
  match notice with
  | .total count =>
      log 20 logger "Total allocations found: %d" [.int count]
  | .category count name =>
      log 10 logger "Rendered %d %s allocations" [.int count, .text name]

/-- Log all that a rendering tells and take its text. -/
def takeRendering (rendering : Rendering) : Action Text := do
  rendering.notices.forM logNotice
  match rendering.outcome with
  | .error fault => throw (.rendering fault)
  | .ok text => return text

end Action

/-- The dataset of a source. -/
def Source.load (source : Source) (path : PathName) : Action Dataset := do
  match source with
  | file => Dataset.load path
  | given value =>
      Action.noteUse (.load path)
      match Dataset.ofValue value with
      | .error fault => throw (.dataset path.toText (.invalid fault))
      | .ok dataset => return dataset
  | failing message =>
      Action.noteUse (.load path)
      throw (.dataset path.toText (.reported message))

/-- Put a text into a sink. -/
def Sink.write (sink : Sink) (path : PathName) (text : Text) :
    Action Unit := do
  match sink with
  | file => Action.replaceText path text
  | memory => Action.noteUse (.write path text.length)
  | failing message =>
      Action.noteUse (.write path text.length)
      throw (.files (.file (.reported message)))

namespace Configuration

/-- Load and render without writing.  The entries of the dropped categories
are left out of the contract. -/
def generate (configuration : Configuration) (source : Source)
    (dropped : List Text) : Action Generation := do
  let dataset ← source.load configuration.input
  let text ← Action.takeRendering
    ((Generator.new configuration.template).generate dropped dataset)
  return ⟨configuration.input, configuration.output, dataset.total,
    dataset.categories, text⟩

/-- Load, render and write. -/
def run (configuration : Configuration) (source : Source) (sink : Sink)
    (dropped : List Text) : Action Generation := do
  let generation ← configuration.generate source dropped
  sink.write configuration.output generation.text
  Action.log 20 "allocgen.pipeline"
    "Wrote %d allocations in %d categories to %s"
    [.int generation.total, .int generation.categories.length,
      .text configuration.output.toText]
  return generation

end Configuration
end VestingContract
