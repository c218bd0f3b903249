import Compliance.Category
import Compliance.Command.Arguments
import Compliance.Command.Run
import Compliance.Count
import Compliance.Decimal.Layout
import Compliance.Decimal.Reading
import Compliance.Decimal.Shortest
import Compliance.Error
import Compliance.Evaluation
import Compliance.Expectation
import Compliance.Fix.Apply
import Compliance.Fix.Correction
import Compliance.Fix.Import
import Compliance.Fix.Pattern
import Compliance.Fix.Registry
import Compliance.Gate
import Compliance.Line.Context
import Compliance.Line.Marks
import Compliance.Line.Scope
import Compliance.Listing
import Compliance.Main
import Compliance.Pattern.Basic
import Compliance.Pattern.ClassText
import Compliance.Pattern.Draft
import Compliance.Pattern.Escape
import Compliance.Pattern.Glob
import Compliance.Pattern.Match
import Compliance.Pattern.Reader
import Compliance.Pattern.Reading
import Compliance.Pattern.Template
import Compliance.Pattern.Weight
import Compliance.Policy
import Compliance.Report.Basic
import Compliance.Report.Record
import Compliance.Report.Rendering
import Compliance.Rule.Basic
import Compliance.Rule.Catalog
import Compliance.Rule.ErrorHandling
import Compliance.Rule.Maintainability
import Compliance.Rule.Performance
import Compliance.Rule.Reliability
import Compliance.Rule.Security
import Compliance.Rule.Tenant
import Compliance.Rule.Transactions
import Compliance.Score.Metric
import Compliance.Score.Scalar
import Compliance.Selection
import Compliance.Settings.Basic
import Compliance.Settings.Derived
import Compliance.Settings.Encoding
import Compliance.Settings.Layers
import Compliance.Source.Loader
import Compliance.Source.Tree
import Compliance.Text.Basic
import Compliance.Text.Blank
import Compliance.Text.CodeSet
import Compliance.Text.Folding
import Compliance.Text.Property.Age
import Compliance.Text.Property.Binary
import Compliance.Text.Property.Break
import Compliance.Text.Property.Category
import Compliance.Text.Property.Named
import Compliance.Text.Property.Script
import Compliance.Text.Property.ScriptExtension
import Compliance.Text.Quoted
import Compliance.Text.Recent
import Compliance.Text.Utf8
import Compliance.Text.Visible
import Compliance.Text.Word
import Compliance.Value.Basic
import Compliance.Value.Decode
import Compliance.Value.Json
import Compliance.Value.Literal
import Compliance.Value.Toml.Lexeme
import Compliance.Value.Toml.Reader
import Compliance.Workspace
import Compliance.Proofs.Pattern.Reads
import Compliance.Proofs.Pattern.Matches
import Compliance.Proofs.Pattern.Words
import Compliance.Proofs.Pattern.Alike
import Compliance.Proofs.Line.MethodDeclaration
import Compliance.Proofs.Fix.Load
import Compliance.Proofs.Fix.Shape
import Compliance.Proofs.Fix.Gain
import Compliance.Proofs.Text.Pieces
import Compliance.Proofs.Fix.ImportTexts
import Compliance.Proofs.Fix.ImportEdits
import Compliance.Proofs.Fix.ImportLoad
import Compliance.Proofs.Fix.ImportKept
import Compliance.Proofs.Fix.Loop
import Compliance.Proofs.Fix.Replay
import Compliance.Proofs.Fix.Termination
import Compliance.Proofs.Fix.Kept
import Compliance.Proofs.Fix.ThrownLiterals
import Compliance.Proofs.Fix.PlainUrls
import Compliance.Proofs.Fix.EmptyHandlers
import Compliance.Proofs.Fix.Usage
import Compliance.Proofs.Fix.Declared
import Compliance.Proofs.Fix.OuterClients
import Compliance.Proofs.Fix.Efficacy
import Compliance.Proofs.Line.Surroundings
import Compliance.Proofs.Rule.Locality
import Compliance.Proofs.Evaluation.Hits
import Compliance.Proofs.Evaluation.Narrowing
import Compliance.Proofs.Evaluation.Files
import Compliance.Proofs.Score.Exact
import Compliance.Proofs.Gate.Order
import Compliance.Proofs.Gate.Monotone
import Compliance.Proofs.Evaluation.Faults
import Compliance.Proofs.Evaluation.Routing
import Compliance.Proofs.Fix.Names
import Compliance.Proofs.Text.Utf8
import Compliance.Proofs.Source.Paths
import Compliance.Proofs.Source.Revision
import Compliance.Proofs.Command.Session
import Compliance.Proofs.Command.Atomicity
import Compliance.Proofs.Command.Recheck
import Compliance.Proofs.Fix.ImportRecords
import Compliance.Proofs.Fix.ImportMerge
import Compliance.Proofs.Fix.ImportNames
import Compliance.Proofs.Text.Words
import Compliance.Proofs.Fix.ImportOnce
import Compliance.Proofs.Line.Scope
import Compliance.Proofs.Rule.Transactions
import Compliance.Proofs.Text.Returns
import Compliance.Proofs.Pattern.Longer
import Compliance.Proofs.Fix.LineEnds
import Compliance.Proofs.Fix.ImportReturns
import Compliance.Proofs.Fix.ImportAlike
import Compliance.Proofs.Fix.CarriageReturns
import Compliance.Proofs.Text.Stretches
import Compliance.Proofs.Text.Blanks
import Compliance.Proofs.Rule.CategoryIds
import Compliance.Proofs.Evaluation.Resolution
import Compliance.Proofs.Fix.Upgrades
import Compliance.Proofs.Fix.ThrowLines
import Compliance.Proofs.Fix.Exceptions
import Compliance.Proofs.Line.Bounds
import Compliance.Proofs.Line.Calls
import Compliance.Proofs.Line.Blocks
import Compliance.Proofs.Rule.Windows
import Compliance.Proofs.Settings.Metrics
import Compliance.Proofs.Source.Buffers
import Compliance.Proofs.Value.Records
import Compliance.Proofs.Settings.RoundTrip
import Compliance.Proofs.Rule.Histories
import Compliance.Proofs.Evaluation.LineNumbers
