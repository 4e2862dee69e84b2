import VestingContract.Calendar.Date
import VestingContract.Calendar.DayNumber
import VestingContract.CommandLine.Command
import VestingContract.CommandLine.Options
import VestingContract.CommandLine.Usage
import VestingContract.Config.Basic
import VestingContract.Config.Check
import VestingContract.Config.Fault
import VestingContract.Config.Read
import VestingContract.Config.Shipped
import VestingContract.Contract.Literal
import VestingContract.Contract.Render
import VestingContract.Contract.Template
import VestingContract.Dataset.Document
import VestingContract.Dataset.Entry
import VestingContract.Dataset.Location
import VestingContract.Dataset.Token
import VestingContract.Dataset.Validation
import VestingContract.File.Action
import VestingContract.File.PathName
import VestingContract.File.Tree
import VestingContract.Json.Lexeme
import VestingContract.Json.Reader
import VestingContract.Json.Writer
import VestingContract.Log.ExceptionReport
import VestingContract.Log.Line
import VestingContract.Log.MessageFormat
import VestingContract.Log.Stamp
import VestingContract.Log.State
import VestingContract.Main
import VestingContract.Number.Binary64
import VestingContract.Number.Decimal
import VestingContract.Number.Fixed
import VestingContract.Number.Power
import VestingContract.Number.Reading
import VestingContract.Number.Rounding
import VestingContract.Number.Shortest
import VestingContract.Proofs.CommandLine.Arguments
import VestingContract.Proofs.CommandLine.Dataset
import VestingContract.Proofs.CommandLine.DryRun
import VestingContract.Proofs.CommandLine.Endings
import VestingContract.Proofs.CommandLine.Stages
import VestingContract.Proofs.Contract.Bytes
import VestingContract.Proofs.Contract.Decoding
import VestingContract.Proofs.Contract.Layout
import VestingContract.Proofs.Dataset.Accepting
import VestingContract.Proofs.Dataset.Document
import VestingContract.Proofs.File.Changes
import VestingContract.Proofs.File.Interleaving
import VestingContract.Proofs.File.Ownership
import VestingContract.Proofs.File.Places
import VestingContract.Proofs.File.Reading
import VestingContract.Proofs.File.Replacing
import VestingContract.Proofs.File.Tree
import VestingContract.Proofs.File.WholeTexts
import VestingContract.Proofs.File.Writers
import VestingContract.Proofs.Json.Flattening
import VestingContract.Proofs.Json.Lexing
import VestingContract.Proofs.Json.Merging
import VestingContract.Proofs.Json.Reading
import VestingContract.Proofs.Json.Spelling
import VestingContract.Proofs.Run.Keeping
import VestingContract.Proofs.Run.Load
import VestingContract.Proofs.Run.LogFile
import VestingContract.Proofs.Run.Merging
import VestingContract.Proofs.Run.Overwriting
import VestingContract.Proofs.Run.Pipeline
import VestingContract.Proofs.Run.Records
import VestingContract.Proofs.Run.Results
import VestingContract.Proofs.Run.Stateful
import VestingContract.Proofs.Run.Watching
import VestingContract.Proofs.Text.Cutting
import VestingContract.Proofs.Text.Utf8
import VestingContract.Run.Failure
import VestingContract.Run.Load
import VestingContract.Run.LogSetup
import VestingContract.Run.Pipeline
import VestingContract.Run.World
import VestingContract.Text.Blank
import VestingContract.Text.Case
import VestingContract.Text.CodePoint
import VestingContract.Text.DecimalDigit
import VestingContract.Text.Newlines
import VestingContract.Text.Printable
import VestingContract.Text.Quoted
import VestingContract.Text.Utf8
import VestingContract.Value.Basic
import VestingContract.Value.Display
import VestingContract.Value.Key
import VestingContract.Yaml.BlockScalar
import VestingContract.Yaml.Construct
import VestingContract.Yaml.Cursor
import VestingContract.Yaml.Document
import VestingContract.Yaml.Fault
import VestingContract.Yaml.Node
import VestingContract.Yaml.PlainScalar
import VestingContract.Yaml.QuotedScalar
import VestingContract.Yaml.Scalar
import VestingContract.Yaml.Tag
import VestingContract.Yaml.TagName
import VestingContract.Yaml.Timestamp
import VestingContract.Yaml.Token
import VestingContract.Yaml.Tokens
import VestingContract.Proofs.File.WholeTree
import VestingContract.Proofs.File.TemporaryNames
import VestingContract.Proofs.File.Repeating
import VestingContract.Proofs.File.Alike
import VestingContract.Proofs.Run.Rebuilding
import VestingContract.Proofs.Run.Indifference
import VestingContract.Proofs.CommandLine.Independence
import VestingContract.Proofs.Run.Delivering
import VestingContract.Proofs.File.Leftovers
import VestingContract.Proofs.Dataset.Format
import VestingContract.Proofs.Dataset.Complaints
import VestingContract.Proofs.Json.Nesting
import VestingContract.Proofs.Run.Nesting
import VestingContract.Proofs.Contract.Spelling
import VestingContract.Proofs.Contract.Capacity
import VestingContract.Proofs.Json.Compact
import VestingContract.Proofs.Run.Rendering
import VestingContract.Proofs.Dataset.Contents
import VestingContract.Proofs.Run.Memory
import VestingContract.Proofs.Json.Constants
import VestingContract.Proofs.Run.Naming
import VestingContract.Proofs.Text.Identifiers
import VestingContract.Proofs.Config.Rules
import VestingContract.Proofs.Config.Reading
import VestingContract.Proofs.Run.Configuring
import VestingContract.Proofs.Contract.Names
import VestingContract.Proofs.Yaml.Values
import VestingContract.Proofs.Yaml.Faults
import VestingContract.Proofs.Run.Unreadable
import VestingContract.Proofs.Dataset.Tokens
import VestingContract.Proofs.Contract.Lines
import VestingContract.Proofs.Text.Literals
import VestingContract.Proofs.Contract.Header
import VestingContract.Proofs.Run.BlankPaths
import VestingContract.Proofs.Run.FailedSetups
import VestingContract.Proofs.Json.Escaping
import VestingContract.Proofs.Json.Rows
import VestingContract.Proofs.Log.Fields
import VestingContract.Proofs.Log.Values
import VestingContract.Proofs.Log.JsonLines
import VestingContract.Proofs.Dataset.Locations
import VestingContract.Proofs.Calendar.Days
import VestingContract.Proofs.Number.FixedWidth
import VestingContract.Proofs.Calendar.Moments
import VestingContract.Proofs.Number.Exactness
import VestingContract.Proofs.Number.Nearest
import VestingContract.Proofs.Log.Stamps
import VestingContract.Proofs.Number.Doubles
import VestingContract.Proofs.Log.Collisions
import VestingContract.Proofs.Run.Contexts
