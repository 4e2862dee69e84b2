import VestingContract.Text.DecimalDigit
import VestingContract.Text.Quoted

/-!
# Options of the command line

What a list of arguments asks for.  Every argument is first told from the
options by its spelling alone; then the options take their values from left to
right.  Long options may be cut short, and values may be joined to options.
-/

namespace VestingContract

/-- An option of the command. -/
inductive CommandOption where
  | help
  | config
  | input
  | output
  | logLevel
  | dryRun
  deriving DecidableEq, Repr

namespace CommandOption

/-- All spellings of options, in the order of their declaration. -/
def spellings : List (Text × CommandOption) :=
  [("-h", help), ("--help", help), ("--config", config), ("-c", config),
    ("--input", input), ("-i", input), ("--output", output), ("-o", output),
    ("--log-level", logLevel), ("--dry-run", dryRun)]

/-- The option of a spelling. -/
def ofSpelling? (spelling : Text) : Option CommandOption :=
  spellings.lookup spelling

/-- The name of an option in messages: its spellings. -/
def name (option : CommandOption) : Text :=
  Text.join "/" ((spellings.filter (·.2 == option)).map Prod.fst)

def hasValue : CommandOption → Bool
  | config | input | output | logLevel => true
  | help | dryRun => false

end CommandOption

/-- The levels that the command line may ask for. -/
def requestableLevels : List Text := ["DEBUG", "INFO", "WARNING", "ERROR"]

/-- Why arguments make no sense. -/
inductive UsageFault where
  | ambiguous (argument : Text) (candidates : List Text)
  | valueExpected (option : CommandOption)
  | valueIgnored (option : CommandOption) (value : Text)
  | unknownLevel (value : Text)
  | unrecognized (arguments : List Text)
  deriving DecidableEq, Repr

def UsageFault.message : UsageFault → Text
  | ambiguous argument candidates =>
      "ambiguous option: " ++ argument ++ " could match " ++
        Text.join ", " candidates
  | valueExpected option =>
      "argument " ++ option.name ++ ": expected one argument"
  | valueIgnored option value =>
      "argument " ++ option.name ++ ": ignored explicit argument " ++
        value.quoted
  | unknownLevel value =>
      "argument " ++ CommandOption.logLevel.name ++ ": invalid choice: " ++
        value.quoted ++ " (choose from " ++
        Text.join ", " (requestableLevels.map Text.quoted) ++ ")"
  | unrecognized arguments =>
      "unrecognized arguments: " ++ Text.join " " arguments

/-- What the options of a run say. -/
structure Options where
  config : Option Text
  input : Option Text
  output : Option Text
  logLevel : Option Text
  dryRun : Bool
  deriving DecidableEq, Repr

/-- No option is given. -/
def Options.unset : Options where
  config := none
  input := none
  output := none
  logLevel := none
  dryRun := false

/-- What a command line asks for. -/
inductive Request where
  | help
  | run (options : Options)
  deriving DecidableEq, Repr

/-- A value that is joined to its option, with or without an equals sign. -/
structure JoinedValue where
  behindEquals : Bool
  value : Text
  deriving DecidableEq, Repr

/-- An argument as its spelling tells. -/
inductive Argument where
  | plain (content : Text)
  | separator
  | unknown (content : Text)
  | option (option : CommandOption) (isLong : Bool)
      (joined : Option JoinedValue)
  deriving DecidableEq, Repr

namespace Argument

/-- The parts of a text before and behind its first equals sign. -/
def splitEquals (content : Text) : Text × Option Text :=
  let before := content.takeWhile (· != .scalar '=')
  match content.drop before.length with
  | [] => (before, none)
  | _ :: value => (before, some value)

/-- A text of decimal digits, at least one. -/
def isDigits (content : Text) : Bool :=
  !content.isEmpty && content.all (·.decimalDigit?.isSome)

/-- A minus sign and a decimal number, on demand with a line feed. -/
def isNegativeNumber (content : Text) : Bool :=
  match content with
  | .scalar '-' :: number =>
      let number :=
        if number.getLast? = some (.scalar '\n') then number.dropLast
        else number
      match Text.splitOn (.scalar '.') number with
      | [whole] => isDigits whole
      | [whole, fraction] =>
          (whole.isEmpty || isDigits whole) && isDigits fraction
      | _ => false
  | _ => false

/-- An argument that begins with two hyphens and is no full spelling. -/
def ofLong (content : Text) : Except UsageFault (Option Argument) :=
  let (before, value) := splitEquals content
  let joined := value.map (JoinedValue.mk true)
  match CommandOption.spellings.filter fun spelling =>
      before.isPrefixOf spelling.1 with
  | [] => .ok none
  | [(_, found)] => .ok (some (option found true joined))
  | candidates =>
      .error (.ambiguous content (candidates.map Prod.fst))

/-- An argument that begins with one hyphen and is no full spelling. -/
def ofShort? (content : Text) : Option Argument :=
  (CommandOption.ofSpelling? (content.take 2)).map fun found =>
    option found false (some ⟨false, content.drop 2⟩)

/-- A full spelling, or one in front of an equals sign. -/
def ofExact? (content : Text) : Option Argument :=
  let isLong := ("--" : Text).isPrefixOf content
  match CommandOption.ofSpelling? content with
  | some found => some (option found isLong none)
  | none =>
      match splitEquals content with
      | (before, some value) =>
          (CommandOption.ofSpelling? before).map fun found =>
            option found isLong (some ⟨true, value⟩)
      | (_, none) => none

/-- An argument that is no option of the command although it begins with a
hyphen.  Negative numbers and texts with a space are values. -/
def ofOther (content : Text) : Argument :=
  if isNegativeNumber content || content.contains (.scalar ' ') then
    plain content
  else
    unknown content

/-- What the spelling of an argument tells. -/
def ofText (content : Text) : Except UsageFault Argument :=
  match content with
  | .scalar '-' :: second :: _ =>
      match ofExact? content with
      | some found => .ok found
      | none => do
          let found ←
            if second = .scalar '-' then ofLong content
            else pure (ofShort? content)
          return found.getD (ofOther content)
  | _ => .ok (plain content)

/-- What the spellings of arguments tell.  Two hyphens make plain values of
all that follows. -/
def ofTexts : List Text → Except UsageFault (List Argument)
  | [] => .ok []
  | content :: rest =>
      if content = "--" then
        .ok (separator :: rest.map plain)
      else do
        let first ← ofText content
        return first :: (← ofTexts rest)

/-- An argument as it was written, if it is no option of the command. -/
def unrecognized? : Argument → Option Text
  | plain content | unknown content => some content
  | separator => some "--"
  | option .. => none

end Argument

namespace Options

/-- Options with the value of one of them set. -/
def setValue (options : Options) (option : CommandOption) (value : Text) :
    Except UsageFault Options :=
  match option with
  | .config => .ok { options with config := some value }
  | .input => .ok { options with input := some value }
  | .output => .ok { options with output := some value }
  | .logLevel =>
      if value ∈ requestableLevels then
        .ok { options with logLevel := some value }
      else
        .error (.unknownLevel value)
  | .help | .dryRun => .ok options

/-- What is wrong with letters that are joined to an option without a value.
They are short options in their turn; the last one may have a value, which is
joined to it or follows. -/
def letterFault? (option : CommandOption) (following : List Argument) :
    Text → Option UsageFault
  | [] => none
  | letter :: rest =>
      if letter = .scalar '-' then
        some (.valueIgnored option (letter :: rest))
      else
        match CommandOption.ofSpelling? [.scalar '-', letter] with
        | none => none
        | some found =>
            match found.hasValue, rest, following with
            | true, _ :: _, _ | true, [], .plain _ :: _ => none
            | true, [], _ => some (.valueExpected found)
            | false, .scalar '=' :: value, _ =>
                some (.valueIgnored found value)
            | false, rest, _ => letterFault? found following rest

/-- What is wrong with a value that is joined to an option without one. -/
def joinedFault? (option : CommandOption) (isLong : Bool)
    (following : List Argument) : Option JoinedValue → Option UsageFault
  | none => none
  | some joined =>
      if isLong || joined.behindEquals || joined.value.isEmpty then
        some (.valueIgnored option joined.value)
      else
        letterFault? option following joined.value

/-- Let the options among arguments take effect in order.  What is no option
and no value of one is collected. -/
def interpret (options : Options) (unrecognized : List Text) :
    List Argument → Except UsageFault Request
  | [] =>
      if unrecognized.isEmpty then .ok (.run options)
      else .error (.unrecognized unrecognized)
  | .option found isLong joined :: rest =>
      if found.hasValue then
        match joined, rest with
        | some joined, rest => do
            interpret (← options.setValue found joined.value) unrecognized
              rest
        | none, .plain value :: rest => do
            interpret (← options.setValue found value) unrecognized rest
        | none, _ => .error (.valueExpected found)
      else
        match joinedFault? found isLong rest joined with
        | some fault => .error fault
        | none =>
            if found = .help then .ok .help
            else
              interpret { options with dryRun := true } unrecognized rest
  | argument :: rest =>
      interpret options
        (unrecognized ++ argument.unrecognized?.toList) rest

end Options

/-- What arguments ask for. -/
def Request.ofArguments (arguments : List Text) :
    Except UsageFault Request := do
  Options.unset.interpret [] (← Argument.ofTexts arguments)

end VestingContract
