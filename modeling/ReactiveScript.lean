import ReactiveScript.Calendar
import ReactiveScript.CommandLine
import ReactiveScript.Config.Basic
import ReactiveScript.Config.Reader
import ReactiveScript.Diagnostic
import ReactiveScript.Fault
import ReactiveScript.FileTree
import ReactiveScript.Json.Cursor
import ReactiveScript.Json.Document
import ReactiveScript.Json.Numeral
import ReactiveScript.Json.Reader
import ReactiveScript.Json.Writer
import ReactiveScript.Library.Call
import ReactiveScript.Library.Clock
import ReactiveScript.Library.Collection
import ReactiveScript.Library.Console
import ReactiveScript.Library.Dispatch
import ReactiveScript.Library.Exchange
import ReactiveScript.Library.Math
import ReactiveScript.Library.Native
import ReactiveScript.Library.Text
import ReactiveScript.Machine.Basic
import ReactiveScript.Machine.Evaluate
import ReactiveScript.Machine.Import
import ReactiveScript.Machine.Notify
import ReactiveScript.Machine.Run
import ReactiveScript.Main
import ReactiveScript.Number.Binary
import ReactiveScript.Number.Checked
import ReactiveScript.Number.Layout
import ReactiveScript.Number.Nearest
import ReactiveScript.Number.Random
import ReactiveScript.Number.Reader
import ReactiveScript.Number.Root
import ReactiveScript.Number.Shortest
import ReactiveScript.Parser.Cursor
import ReactiveScript.Parser.Expression
import ReactiveScript.Parser.Statement
import ReactiveScript.Pattern.Basic
import ReactiveScript.Pattern.CharSet
import ReactiveScript.Pattern.Class
import ReactiveScript.Pattern.Cursor
import ReactiveScript.Pattern.Escape
import ReactiveScript.Pattern.Fault
import ReactiveScript.Pattern.Program
import ReactiveScript.Pattern.Property
import ReactiveScript.Pattern.Reader
import ReactiveScript.Pattern.Replacement
import ReactiveScript.Pattern.Search
import ReactiveScript.Proofs.Blame.Call
import ReactiveScript.Proofs.Blame.Evaluation
import ReactiveScript.Proofs.Blame.Library
import ReactiveScript.Proofs.Blame.Node
import ReactiveScript.Proofs.Blame.Path
import ReactiveScript.Proofs.Blame.Plan
import ReactiveScript.Proofs.Blame.Program
import ReactiveScript.Proofs.Blame.Rule
import ReactiveScript.Proofs.Blame.Unplaced
import ReactiveScript.Proofs.Call.Balance
import ReactiveScript.Proofs.Canonical.Evaluation
import ReactiveScript.Proofs.Canonical.Words
import ReactiveScript.Proofs.Container.Dictionary
import ReactiveScript.Proofs.Container.Difference
import ReactiveScript.Proofs.Container.Extensionality
import ReactiveScript.Proofs.Container.Extreme
import ReactiveScript.Proofs.Container.Lookup
import ReactiveScript.Proofs.Container.Range
import ReactiveScript.Proofs.Container.Retrieval
import ReactiveScript.Proofs.Container.Sequence
import ReactiveScript.Proofs.Container.Sorting
import ReactiveScript.Proofs.Conversion.Absence
import ReactiveScript.Proofs.Conversion.Contents
import ReactiveScript.Proofs.Conversion.Distinct
import ReactiveScript.Proofs.Conversion.Faithful
import ReactiveScript.Proofs.Conversion.Identity
import ReactiveScript.Proofs.Conversion.Operation
import ReactiveScript.Proofs.Conversion.Outcome
import ReactiveScript.Proofs.Conversion.Restriction
import ReactiveScript.Proofs.Conversion.Spelling
import ReactiveScript.Proofs.Datum.Likeness
import ReactiveScript.Proofs.Datum.Sameness
import ReactiveScript.Proofs.Datum.Tree
import ReactiveScript.Proofs.Datum.View
import ReactiveScript.Proofs.Document.Ending
import ReactiveScript.Proofs.Document.Member
import ReactiveScript.Proofs.Document.Object
import ReactiveScript.Proofs.Document.RoundTrip
import ReactiveScript.Proofs.Document.Writing
import ReactiveScript.Proofs.Evaluation.Discipline
import ReactiveScript.Proofs.Evaluation.Effect
import ReactiveScript.Proofs.Evaluation.Library
import ReactiveScript.Proofs.Evaluation.Operation
import ReactiveScript.Proofs.Evaluation.Program
import ReactiveScript.Proofs.Evaluation.Quiet
import ReactiveScript.Proofs.Form.Agreement
import ReactiveScript.Proofs.Form.Expansion
import ReactiveScript.Proofs.Grammar.Bracket
import ReactiveScript.Proofs.Grammar.Inversion
import ReactiveScript.Proofs.Grammar.Label
import ReactiveScript.Proofs.Grammar.Opening
import ReactiveScript.Proofs.Grammar.Primary
import ReactiveScript.Proofs.Grammar.Printer
import ReactiveScript.Proofs.Grammar.Program
import ReactiveScript.Proofs.Grammar.Reading
import ReactiveScript.Proofs.Grammar.RoundTrip
import ReactiveScript.Proofs.Grammar.Simple
import ReactiveScript.Proofs.Grammar.Statement
import ReactiveScript.Proofs.Grammar.Taking
import ReactiveScript.Proofs.Halting.Latch
import ReactiveScript.Proofs.Halting.Session
import ReactiveScript.Proofs.Import.Delivery
import ReactiveScript.Proofs.Import.Trace
import ReactiveScript.Proofs.Module.Alias
import ReactiveScript.Proofs.Module.Body
import ReactiveScript.Proofs.Module.Mirror
import ReactiveScript.Proofs.Nesting.Acyclic
import ReactiveScript.Proofs.Nesting.Budget
import ReactiveScript.Proofs.Nesting.Casting
import ReactiveScript.Proofs.Nesting.Containment
import ReactiveScript.Proofs.Nesting.Cycle
import ReactiveScript.Proofs.Nesting.Definite
import ReactiveScript.Proofs.Nesting.Reading
import ReactiveScript.Proofs.Number.Arithmetic
import ReactiveScript.Proofs.Number.Bits
import ReactiveScript.Proofs.Number.Double
import ReactiveScript.Proofs.Number.Numeral
import ReactiveScript.Proofs.Number.Power
import ReactiveScript.Proofs.Number.Rounding
import ReactiveScript.Proofs.Number.Widening
import ReactiveScript.Proofs.Place.Expression
import ReactiveScript.Proofs.Place.Rule
import ReactiveScript.Proofs.Place.Source
import ReactiveScript.Proofs.Place.Statement
import ReactiveScript.Proofs.Reactive.Aside
import ReactiveScript.Proofs.Reactive.Course
import ReactiveScript.Proofs.Reactive.Dispatch
import ReactiveScript.Proofs.Reactive.Logging
import ReactiveScript.Proofs.Reactive.Mutation
import ReactiveScript.Proofs.Reactive.Reachable
import ReactiveScript.Proofs.Reactive.Recording
import ReactiveScript.Proofs.Reactive.Registry
import ReactiveScript.Proofs.Reactive.Resolution
import ReactiveScript.Proofs.Reactive.Subscription
import ReactiveScript.Proofs.Regime.Broad
import ReactiveScript.Proofs.Regime.Expression
import ReactiveScript.Proofs.Regime.Frame
import ReactiveScript.Proofs.Regime.Import
import ReactiveScript.Proofs.Regime.Lasting
import ReactiveScript.Proofs.Regime.Rule
import ReactiveScript.Proofs.Regime.Statement
import ReactiveScript.Proofs.Scope.History
import ReactiveScript.Proofs.Scope.Resolution
import ReactiveScript.Proofs.Store.Conform
import ReactiveScript.Proofs.Store.Growth
import ReactiveScript.Proofs.Store.Reachable
import ReactiveScript.Proofs.Store.Sound
import ReactiveScript.Proofs.Task.Schedule
import ReactiveScript.Proofs.Task.Wait
import ReactiveScript.Proofs.Termination.Depth
import ReactiveScript.Proofs.Token.Cover
import ReactiveScript.Proofs.Token.Piece
import ReactiveScript.Proofs.Token.RoundTrip
import ReactiveScript.Proofs.Token.Spelling
import ReactiveScript.Proofs.Ty.Profile
import ReactiveScript.Proofs.Ty.RoundTrip
import ReactiveScript.Reactive.Table
import ReactiveScript.Reactive.Task
import ReactiveScript.Scope
import ReactiveScript.Span
import ReactiveScript.Syntax.Operator
import ReactiveScript.Syntax.Tree
import ReactiveScript.Table
import ReactiveScript.Text.Alphabetic
import ReactiveScript.Text.Blank
import ReactiveScript.Text.CaseTable
import ReactiveScript.Text.Casing
import ReactiveScript.Text.Category
import ReactiveScript.Text.Lines
import ReactiveScript.Text.Numeric
import ReactiveScript.Text.Quoted
import ReactiveScript.Text.Ranges
import ReactiveScript.Text.Script
import ReactiveScript.Text.Search
import ReactiveScript.Text.Visible
import ReactiveScript.Text.Word
import ReactiveScript.Token.Basic
import ReactiveScript.Token.Lexer
import ReactiveScript.Ty
import ReactiveScript.Value.Basic
import ReactiveScript.Value.Cast
import ReactiveScript.Value.Container
import ReactiveScript.Value.Convert
import ReactiveScript.Value.Datum
import ReactiveScript.Value.Operate
import ReactiveScript.Value.Range
import ReactiveScript.Value.Reading
import ReactiveScript.Value.Text
