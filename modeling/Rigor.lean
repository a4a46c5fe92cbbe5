import Rigor.Boundary.Library
import Rigor.Boundary.Packaged
import Rigor.Boundary.Pattern
import Rigor.Boundary.Request
import Rigor.Check.Checked
import Rigor.Check.IntegerText
import Rigor.Check.Issue
import Rigor.Check.Record
import Rigor.Check.Scalar
import Rigor.Diagnostic
import Rigor.Fault
import Rigor.Journal
import Rigor.Json.Basic
import Rigor.Json.Display
import Rigor.Json.Finite
import Rigor.Json.Numeral
import Rigor.Json.Order
import Rigor.Json.Reader
import Rigor.Json.Writer
import Rigor.Level.Basic
import Rigor.Level.Catalog
import Rigor.Level.Definition
import Rigor.Level.Packaged
import Rigor.Level.Request
import Rigor.Number.Binary64
import Rigor.Number.Shortest
import Rigor.Proofs.Boundary.Loaded
import Rigor.Proofs.Diagnostic.Recovery
import Rigor.Proofs.Level.Answers
import Rigor.Proofs.Level.Highest
import Rigor.Proofs.Level.Loaded
import Rigor.Proofs.Registry.Answers
import Rigor.Proofs.Registry.Failure
import Rigor.Proofs.Registry.Query
import Rigor.Proofs.Registry.Requests
import Rigor.Proofs.Registry.Snapshot
import Rigor.Proofs.Report.Aggregation
import Rigor.Proofs.Report.Layout
import Rigor.Proofs.Report.Packaged
import Rigor.Proofs.Report.Thresholds
import Rigor.Proofs.Risk.Answers
import Rigor.Proofs.Risk.Coherence
import Rigor.Proofs.Risk.Extension
import Rigor.Proofs.Risk.Finding
import Rigor.Proofs.Risk.Firsts
import Rigor.Proofs.Risk.Joined
import Rigor.Proofs.Risk.Loading
import Rigor.Proofs.Risk.Spelling
import Rigor.Proofs.Risk.Stored
import Rigor.Proofs.Risk.Surroundings
import Rigor.Proofs.Risk.Table
import Rigor.Proofs.Sample.Agreement
import Rigor.Proofs.Sample.Concatenation
import Rigor.Proofs.Sample.Integrality
import Rigor.Proofs.Sample.Printer
import Rigor.Proofs.Sample.Shape
import Rigor.Proofs.Sample.Strictness
import Rigor.Proofs.Sample.Unambiguous
import Rigor.Proofs.Schema.Canonical
import Rigor.Proofs.Schema.Decoder
import Rigor.Proofs.Schema.Detection
import Rigor.Proofs.Schema.Distinct
import Rigor.Proofs.Schema.Misfit
import Rigor.Proofs.Schema.Precedence
import Rigor.Proofs.Service.Rereading
import Rigor.Proofs.Text.Erasure
import Rigor.Proofs.Text.Language
import Rigor.Proofs.Text.Listing
import Rigor.Proofs.Text.Lower
import Rigor.Proofs.Text.Pieces
import Rigor.Registry
import Rigor.Report.Analysis
import Rigor.Report.Analyze
import Rigor.Report.Coverage
import Rigor.Report.Template.Basic
import Rigor.Report.Template.Cursor
import Rigor.Report.Template.Kind
import Rigor.Report.Template.Member
import Rigor.Report.Template.Parser
import Rigor.Report.Template.Plan
import Rigor.Report.Template.Printer
import Rigor.Report.Template.Scope
import Rigor.Report.Template.Value
import Rigor.Risk.Category
import Rigor.Risk.Classify
import Rigor.Risk.Packaged
import Rigor.Risk.Pattern
import Rigor.Risk.Register
import Rigor.Risk.Request
import Rigor.Schema.Basic
import Rigor.Schema.Expression
import Rigor.Schema.Format
import Rigor.Schema.Infer
import Rigor.Schema.Reader
import Rigor.Schema.Sample
import Rigor.Service.Echo
import Rigor.Service.Http
import Rigor.Service.Route
import Rigor.Service.Session
import Rigor.Table
import Rigor.Text.Blank
import Rigor.Text.Case
import Rigor.Text.CaseTable
import Rigor.Text.CodeRun
import Rigor.Text.Decimal
import Rigor.Text.Decomposition
import Rigor.Text.DecompositionTable
import Rigor.Text.Digit
import Rigor.Text.Encoding
import Rigor.Text.Identifier
import Rigor.Text.Join
import Rigor.Text.Pattern
import Rigor.Text.Printable
import Rigor.Text.Quoted
import Rigor.Text.Ranges
import Rigor.Text.Search
import Rigor.Text.Units
import Rigor.Text.Utf8
