import FieldNorm.Command.Batch
import FieldNorm.Command.Failure
import FieldNorm.Command.Grammar
import FieldNorm.Command.Invocation
import FieldNorm.Command.Load
import FieldNorm.Command.Normalize
import FieldNorm.Command.Program
import FieldNorm.Command.Scene
import FieldNorm.Command.Sink
import FieldNorm.Command.Statements
import FieldNorm.Command.Workspace
import FieldNorm.Document.Basic
import FieldNorm.Document.Json
import FieldNorm.Double.Basic
import FieldNorm.Double.Round
import FieldNorm.Double.Shortest
import FieldNorm.Double.Text
import FieldNorm.FieldMap
import FieldNorm.Json.Basic
import FieldNorm.Json.Fault
import FieldNorm.Json.Numeral
import FieldNorm.Json.Printer
import FieldNorm.Json.Quoted
import FieldNorm.Json.Reader
import FieldNorm.Json.Skip
import FieldNorm.Log.Directive
import FieldNorm.Log.Event
import FieldNorm.Log.Filter
import FieldNorm.Log.Line
import FieldNorm.Main
import FieldNorm.Pipeline.Basic
import FieldNorm.Pipeline.Json
import FieldNorm.Proofs.Command.Canonical
import FieldNorm.Proofs.Command.Counting
import FieldNorm.Proofs.Command.Course
import FieldNorm.Proofs.Command.Files
import FieldNorm.Proofs.Command.FixedPoint
import FieldNorm.Proofs.Command.Loading
import FieldNorm.Proofs.Command.Outcome
import FieldNorm.Proofs.Command.Output
import FieldNorm.Proofs.Command.Redaction
import FieldNorm.Proofs.Command.Reloading
import FieldNorm.Proofs.Command.Rereading
import FieldNorm.Proofs.Command.Resemblance
import FieldNorm.Proofs.Command.Sink
import FieldNorm.Proofs.Command.Splitting
import FieldNorm.Proofs.Command.Statements
import FieldNorm.Proofs.Command.Steps
import FieldNorm.Proofs.Command.Totals
import FieldNorm.Proofs.Document.Canonical
import FieldNorm.Proofs.Document.FieldContext
import FieldNorm.Proofs.Document.IntegerField
import FieldNorm.Proofs.Document.Members
import FieldNorm.Proofs.Document.Operations
import FieldNorm.Proofs.Document.Reading
import FieldNorm.Proofs.Document.Refusal
import FieldNorm.Proofs.Document.Rereading
import FieldNorm.Proofs.Document.RoundTrip
import FieldNorm.Proofs.Document.Similar
import FieldNorm.Proofs.Document.Values
import FieldNorm.Proofs.Double.Arithmetic
import FieldNorm.Proofs.Double.Magnitude
import FieldNorm.Proofs.Double.Nearest
import FieldNorm.Proofs.Double.Shortest
import FieldNorm.Proofs.Double.Text
import FieldNorm.Proofs.Json.Finite
import FieldNorm.Proofs.Json.IntegerLiteral
import FieldNorm.Proofs.Json.Literal
import FieldNorm.Proofs.Json.Locality
import FieldNorm.Proofs.Json.Numeral
import FieldNorm.Proofs.Json.Objects
import FieldNorm.Proofs.Json.Quoted
import FieldNorm.Proofs.Json.Reading
import FieldNorm.Proofs.Json.Rereading
import FieldNorm.Proofs.Json.Results
import FieldNorm.Proofs.Json.RoundTrip
import FieldNorm.Proofs.Json.Scaling
import FieldNorm.Proofs.Pipeline.Alike
import FieldNorm.Proofs.Pipeline.ClosedForm
import FieldNorm.Proofs.Pipeline.Difference
import FieldNorm.Proofs.Pipeline.Ending
import FieldNorm.Proofs.Pipeline.Failure
import FieldNorm.Proofs.Pipeline.Fieldwise
import FieldNorm.Proofs.Pipeline.Override
import FieldNorm.Proofs.Pipeline.Reordering
import FieldNorm.Proofs.Pipeline.Repetition
import FieldNorm.Proofs.Pipeline.Report
import FieldNorm.Proofs.Pipeline.RoundTrip
import FieldNorm.Proofs.Pipeline.Trace
import FieldNorm.Proofs.Pipeline.Values
import FieldNorm.Proofs.Rule.Effect
import FieldNorm.Proofs.Sql.Reading
import FieldNorm.Proofs.Sql.Styles
import FieldNorm.Proofs.Text.Blank
import FieldNorm.Proofs.Text.ByteOrder
import FieldNorm.Proofs.Value.Version
import FieldNorm.Rule.Basic
import FieldNorm.Rule.Json
import FieldNorm.Sql.Statement
import FieldNorm.Sql.Style
import FieldNorm.Table.Grid
import FieldNorm.Table.Mark
import FieldNorm.Table.Summary
import FieldNorm.Text.Alphanumeric
import FieldNorm.Text.Blank
import FieldNorm.Text.Bytes
import FieldNorm.Text.CharSet
import FieldNorm.Text.CodeRanges
import FieldNorm.Text.Cut
import FieldNorm.Text.Emoji
import FieldNorm.Text.Escape
import FieldNorm.Text.Extending
import FieldNorm.Text.Hex
import FieldNorm.Text.Ligature
import FieldNorm.Text.Pattern
import FieldNorm.Text.PatternReader
import FieldNorm.Text.Quoted
import FieldNorm.Text.Unprintable
import FieldNorm.Text.Wide
import FieldNorm.Text.Width
import FieldNorm.Text.ZeroWidth
import FieldNorm.Value
import FieldNorm.Value.Version
