import Tutor.Console.Arguments
import Tutor.Console.Help
import Tutor.Console.Play
import Tutor.Console.Responses
import Tutor.Console.Run
import Tutor.Course.Bundled
import Tutor.Course.Catalog
import Tutor.Course.Document
import Tutor.Course.Lesson
import Tutor.Course.Loading
import Tutor.Decimal.Double
import Tutor.Decimal.Shortest
import Tutor.Distinct
import Tutor.Effects.Outcome
import Tutor.Events.Output
import Tutor.Events.Tracker
import Tutor.Events.Waiting
import Tutor.Failure
import Tutor.Fault.Basic
import Tutor.Fault.Compose
import Tutor.Fault.Kind
import Tutor.Host.Files
import Tutor.Host.Journal
import Tutor.Host.Path
import Tutor.Host.Runner
import Tutor.Json.Basic
import Tutor.Json.Literal
import Tutor.Json.Reader
import Tutor.Json.Writer
import Tutor.Main
import Tutor.Pattern.Brackets
import Tutor.Pattern.CharNames
import Tutor.Pattern.Charset
import Tutor.Pattern.Cursor
import Tutor.Pattern.Escape
import Tutor.Pattern.Flaw
import Tutor.Pattern.Node
import Tutor.Pattern.Opening
import Tutor.Pattern.Options
import Tutor.Pattern.Reader
import Tutor.Pattern.Search
import Tutor.Release
import Tutor.Service.Clues
import Tutor.Service.Lessons
import Tutor.Settings.Store
import Tutor.Settings.Stored
import Tutor.Shell.Arithmetic
import Tutor.Shell.Brackets
import Tutor.Shell.Builtins
import Tutor.Shell.Escape
import Tutor.Shell.Execute
import Tutor.Shell.Expand
import Tutor.Shell.Format
import Tutor.Shell.Glob
import Tutor.Shell.Interpreter
import Tutor.Shell.Machine
import Tutor.Shell.Number
import Tutor.Shell.Process
import Tutor.Shell.Quote
import Tutor.Shell.Reader
import Tutor.Shell.Script
import Tutor.Shell.Signal
import Tutor.Shell.Test
import Tutor.Shell.Token
import Tutor.Shell.Tools
import Tutor.Shell.Word
import Tutor.Steps.Pipeline
import Tutor.Steps.Spec
import Tutor.Table
import Tutor.Text.Blank
import Tutor.Text.Case
import Tutor.Text.Digits
import Tutor.Text.Hex
import Tutor.Text.Identifier
import Tutor.Text.Letters
import Tutor.Text.Lines
import Tutor.Text.Printable
import Tutor.Text.Quoted
import Tutor.Text.Ranges
import Tutor.Text.Utf8
import Tutor.Text.Whole
import Tutor.World
import Tutor.Proofs.Acts
import Tutor.Proofs.Tables
import Tutor.Proofs.Events.Survivors
import Tutor.Proofs.Events.Outputs
import Tutor.Proofs.Events.Trackers
import Tutor.Proofs.Events.Waiting
import Tutor.Proofs.Events.History
import Tutor.Proofs.Events.Signals
import Tutor.Proofs.Service.Frames
import Tutor.Proofs.Service.Sessions
import Tutor.Proofs.Service.Protocol
import Tutor.Proofs.Course.Loading
import Tutor.Proofs.Host.Files
import Tutor.Proofs.Json.Strings
import Tutor.Proofs.Json.RoundTrip
import Tutor.Proofs.Service.Attempts
import Tutor.Proofs.Unions
import Tutor.Proofs.Effects.Outcome
import Tutor.Proofs.Settings.Store
import Tutor.Proofs.Service.Progress
import Tutor.Proofs.Service.Journal
import Tutor.Proofs.Console.Moves
import Tutor.Proofs.Console.Rounds
import Tutor.Proofs.Course.Documents
import Tutor.Proofs.Console.Reports
import Tutor.Proofs.Events.Independence
import Tutor.Proofs.Events.Ordered
import Tutor.Proofs.Service.Agreement
import Tutor.Proofs.Course.Shorthand
import Tutor.Proofs.Service.Shorthand
import Tutor.Proofs.Service.Presentation
import Tutor.Proofs.Events.Ascent
import Tutor.Proofs.Course.Reloading
import Tutor.Proofs.Service.Programs
import Tutor.Proofs.Settings.Migration
import Tutor.Proofs.Settings.Stores
import Tutor.Proofs.Effects.Resolution
import Tutor.Proofs.Text.Spelling
import Tutor.Proofs.Text.Digits
import Tutor.Proofs.Console.Choices
import Tutor.Proofs.Json.Reading
import Tutor.Proofs.Console.Display
import Tutor.Proofs.Service.Faultless
import Tutor.Proofs.Console.Requests
import Tutor.Proofs.Console.Faults
import Tutor.Proofs.Flaws
import Tutor.Proofs.Course.Acceptance
import Tutor.Proofs.Steps.Compilation
import Tutor.Proofs.Service.Responses
import Tutor.Proofs.Events.Arming
import Tutor.Proofs.Settings.Opening
import Tutor.Proofs.Service.Listings
import Tutor.Proofs.Service.Clues
import Tutor.Proofs.Console.Menu
import Tutor.Proofs.Console.Prompt
import Tutor.Proofs.Service.Inputs
import Tutor.Proofs.Shell.Words
import Tutor.Proofs.Pattern.WholeLines
import Tutor.Proofs.Console.Pace
import Tutor.Proofs.Events.Ambiguity
import Tutor.Proofs.Text.Encoded
import Tutor.Proofs.Text.Lines
import Tutor.Proofs.Release
