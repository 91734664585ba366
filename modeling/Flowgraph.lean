import Flowgraph.Command.Arguments
import Flowgraph.Command.Basic
import Flowgraph.Condition.Basic
import Flowgraph.Condition.Eval
import Flowgraph.Document.Basic
import Flowgraph.Document.Check
import Flowgraph.Document.Reference
import Flowgraph.Document.Schema
import Flowgraph.Document.Standard
import Flowgraph.Document.Text
import Flowgraph.Document.Written
import Flowgraph.Environment.Basic
import Flowgraph.Environment.File
import Flowgraph.Expr.Basic
import Flowgraph.Expr.Eval
import Flowgraph.Expr.Extremum
import Flowgraph.Expr.Fault
import Flowgraph.Expr.Method
import Flowgraph.Expr.Method.Arguments
import Flowgraph.Expr.Method.Container
import Flowgraph.Expr.Method.Scalar
import Flowgraph.Expr.Method.Text
import Flowgraph.Expr.Nesting
import Flowgraph.Expr.Parser
import Flowgraph.Expr.Query
import Flowgraph.Expr.Sort
import Flowgraph.Expr.Token
import Flowgraph.Expr.Writer
import Flowgraph.Family
import Flowgraph.Fault
import Flowgraph.Files
import Flowgraph.Journal
import Flowgraph.Json.Reader
import Flowgraph.Json.Writer
import Flowgraph.Log.Entry
import Flowgraph.Log.Line
import Flowgraph.Main
import Flowgraph.Number.Binary
import Flowgraph.Number.Decimal
import Flowgraph.Number.Numeral
import Flowgraph.Proofs.Act
import Flowgraph.Proofs.Acyclic
import Flowgraph.Proofs.Condition.Demands
import Flowgraph.Proofs.Condition.Depth
import Flowgraph.Proofs.Condition.Frame
import Flowgraph.Proofs.Condition.Inlining
import Flowgraph.Proofs.Condition.Outcome
import Flowgraph.Proofs.Condition.Reach
import Flowgraph.Proofs.Condition.Relations
import Flowgraph.Proofs.Document.Lawful
import Flowgraph.Proofs.Document.Loading
import Flowgraph.Proofs.Document.NormalForm
import Flowgraph.Proofs.Document.Recovery
import Flowgraph.Proofs.Evaluations
import Flowgraph.Proofs.Expr.Accesses
import Flowgraph.Proofs.Expr.Complaints
import Flowgraph.Proofs.Expr.Completeness
import Flowgraph.Proofs.Expr.Data
import Flowgraph.Proofs.Expr.Edits
import Flowgraph.Proofs.Expr.Filtering
import Flowgraph.Proofs.Expr.Grammar
import Flowgraph.Proofs.Expr.Lexing
import Flowgraph.Proofs.Expr.Names
import Flowgraph.Proofs.Expr.Nesting
import Flowgraph.Proofs.Expr.Origins
import Flowgraph.Proofs.Expr.Scanning
import Flowgraph.Proofs.Expr.Sorting
import Flowgraph.Proofs.Expr.Spelling
import Flowgraph.Proofs.Expr.Unmarked
import Flowgraph.Proofs.Expr.Viability
import Flowgraph.Proofs.Expr.Writing
import Flowgraph.Proofs.Faults
import Flowgraph.Proofs.Json.Carrying
import Flowgraph.Proofs.Json.Reading
import Flowgraph.Proofs.Json.RoundTrip
import Flowgraph.Proofs.Json.Strings
import Flowgraph.Proofs.Number.Digits
import Flowgraph.Proofs.Parallel
import Flowgraph.Proofs.Reading
import Flowgraph.Proofs.Run.Agenda
import Flowgraph.Proofs.Run.Course
import Flowgraph.Proofs.Run.DepthFirst
import Flowgraph.Proofs.Run.Edges
import Flowgraph.Proofs.Run.Effects
import Flowgraph.Proofs.Run.Events
import Flowgraph.Proofs.Run.ExitCode
import Flowgraph.Proofs.Run.Headers
import Flowgraph.Proofs.Run.Hooks
import Flowgraph.Proofs.Run.References
import Flowgraph.Proofs.Run.Requests
import Flowgraph.Proofs.Run.Stopping
import Flowgraph.Proofs.Run.Verbosity
import Flowgraph.Proofs.Run.Visit
import Flowgraph.Proofs.Run.Weight
import Flowgraph.Proofs.Run.Wording
import Flowgraph.Proofs.Run.Writes
import Flowgraph.Proofs.Template.Balanced
import Flowgraph.Proofs.Template.Closing
import Flowgraph.Proofs.Template.Demands
import Flowgraph.Proofs.Template.Filling
import Flowgraph.Proofs.Template.Nested
import Flowgraph.Proofs.Template.Outcome
import Flowgraph.Proofs.Template.Passes
import Flowgraph.Proofs.Template.Placeholders
import Flowgraph.Proofs.Template.Surplus
import Flowgraph.Proofs.Text.Upper
import Flowgraph.Proofs.Value.Data
import Flowgraph.Proofs.Value.Display
import Flowgraph.Proofs.Value.Edit
import Flowgraph.Proofs.Value.Equality
import Flowgraph.Proofs.Value.Path
import Flowgraph.Proofs.Value.Unmarked
import Flowgraph.Run.Exchange
import Flowgraph.Run.Executor
import Flowgraph.Run.Http
import Flowgraph.Run.Loop
import Flowgraph.Run.Progress
import Flowgraph.Run.Result
import Flowgraph.Settings.Basic
import Flowgraph.Settings.Load
import Flowgraph.Template.Interpolation
import Flowgraph.Template.Placeholder
import Flowgraph.Template.Span
import Flowgraph.Text.Base64
import Flowgraph.Text.Blank
import Flowgraph.Text.Case
import Flowgraph.Text.Case.Table
import Flowgraph.Text.Digit
import Flowgraph.Text.FileName
import Flowgraph.Text.Letter
import Flowgraph.Text.Printable
import Flowgraph.Text.Range
import Flowgraph.Text.Utf8
import Flowgraph.Value.Basic
import Flowgraph.Value.Display
import Flowgraph.Value.Equality
import Flowgraph.Value.Literal
import Flowgraph.Value.Mark
import Flowgraph.Value.Order
import Flowgraph.Value.Path
import Flowgraph.Yaml.Cursor
import Flowgraph.Yaml.Node
import Flowgraph.Yaml.Plain
import Flowgraph.Yaml.Scalar
import Flowgraph.Yaml.Stamp
import Flowgraph.Yaml.Token
import Flowgraph.Yaml.Value
