import CodeSurvey.Budget
import CodeSurvey.Cap
import CodeSurvey.Clone.Block
import CodeSurvey.Clone.Plain
import CodeSurvey.Clone.Search
import CodeSurvey.Clone.Similarity
import CodeSurvey.Command.Basic
import CodeSurvey.Command.Run
import CodeSurvey.Command.Screen
import CodeSurvey.Command.Session
import CodeSurvey.Command.Words
import CodeSurvey.Decimal.Binary
import CodeSurvey.Decimal.Layout
import CodeSurvey.Decimal.Shortest
import CodeSurvey.Finding.Complex
import CodeSurvey.Finding.DeadCode
import CodeSurvey.Finding.Redundancy
import CodeSurvey.Graph.Analysis
import CodeSurvey.Graph.Cycle
import CodeSurvey.Graph.Entry
import CodeSurvey.Graph.Metrics
import CodeSurvey.Graph.Node
import CodeSurvey.Language.Binding
import CodeSurvey.Language.Declaration
import CodeSurvey.Language.Export
import CodeSurvey.Language.Family
import CodeSurvey.Language.Import
import CodeSurvey.Language.Name
import CodeSurvey.Log.Record
import CodeSurvey.Log.Setup
import CodeSurvey.Log.Trace
import CodeSurvey.Main
import CodeSurvey.Path
import CodeSurvey.Pattern.Basic
import CodeSurvey.Pattern.Ends
import CodeSurvey.Pattern.Search
import CodeSurvey.Proofs.Clone.AllPairs
import CodeSurvey.Proofs.Clone.Limits
import CodeSurvey.Proofs.Clone.Places
import CodeSurvey.Proofs.Decimal.Quotient
import CodeSurvey.Proofs.Decimal.Rounding
import CodeSurvey.Proofs.Finding.DeadNames
import CodeSurvey.Proofs.Graph.AddedFiles
import CodeSurvey.Proofs.Graph.CycleInvariant
import CodeSurvey.Proofs.Graph.CycleOrder
import CodeSurvey.Proofs.Graph.CycleReport
import CodeSurvey.Proofs.Graph.CycleSteps
import CodeSurvey.Proofs.Graph.Dependents
import CodeSurvey.Proofs.Graph.FileOrder
import CodeSurvey.Proofs.Graph.Imports
import CodeSurvey.Proofs.Path.Normal
import CodeSurvey.Proofs.Pattern.Inversion
import CodeSurvey.Proofs.Quality.Lines
import CodeSurvey.Proofs.Resolution.Meaning
import CodeSurvey.Proofs.Resolution.Sibling
import CodeSurvey.Proofs.Source.DeclaredNames
import CodeSurvey.Proofs.Source.Tokens
import CodeSurvey.Proofs.Source.WholeUses
import CodeSurvey.Proofs.Survey.InPlace
import CodeSurvey.Proofs.Text.Classes
import CodeSurvey.Proofs.Text.Parts
import CodeSurvey.Quality
import CodeSurvey.Report.Digest
import CodeSurvey.Report.Document
import CodeSurvey.Report.Issue
import CodeSurvey.Report.Markdown
import CodeSurvey.Resolution
import CodeSurvey.Rules.Basic
import CodeSurvey.Rules.File
import CodeSurvey.Service.Answer
import CodeSurvey.Service.Request
import CodeSurvey.Severity
import CodeSurvey.Source.Body
import CodeSurvey.Source.Complexity
import CodeSurvey.Source.Declarations
import CodeSurvey.Source.File
import CodeSurvey.Source.Token
import CodeSurvey.Survey
import CodeSurvey.Text.Blank
import CodeSurvey.Text.Digit
import CodeSurvey.Text.Hex
import CodeSurvey.Text.Identifier
import CodeSurvey.Text.Lines
import CodeSurvey.Text.Lowercase
import CodeSurvey.Text.Printable
import CodeSurvey.Text.Ranges
import CodeSurvey.Text.Units
import CodeSurvey.Text.Utf8
import CodeSurvey.Text.Word
import CodeSurvey.Tree.Basic
import CodeSurvey.Tree.Disk
import CodeSurvey.Tree.Ignore
import CodeSurvey.Tree.Walk
import CodeSurvey.Value.Basic
import CodeSurvey.Value.Json
import CodeSurvey.Value.JsonReader
import CodeSurvey.Value.Literal
import CodeSurvey.Value.Number
import CodeSurvey.Yaml.Date
import CodeSurvey.Yaml.Document
import CodeSurvey.Yaml.Fault
import CodeSurvey.Yaml.Key
import CodeSurvey.Yaml.Lexer
import CodeSurvey.Yaml.Mark
import CodeSurvey.Yaml.Node
import CodeSurvey.Yaml.Plain
import CodeSurvey.Yaml.Token
import CodeSurvey.Yaml.Writer
import CodeSurvey.Proofs.Graph.Unused
import CodeSurvey.Proofs.Report.Assembly
import CodeSurvey.Proofs.Survey.ComplexityErrors
import CodeSurvey.Proofs.Survey.ExportedNames
import CodeSurvey.Proofs.Clone.ReachedLimits
import CodeSurvey.Proofs.Survey.StrictMode
import CodeSurvey.Proofs.Service.Settled
import CodeSurvey.Proofs.Pattern.Disjoint
import CodeSurvey.Proofs.Source.Decisions
import CodeSurvey.Proofs.Source.NestedFunctions
import CodeSurvey.Proofs.Path.Composition
import CodeSurvey.Proofs.Resolution.Relative
import CodeSurvey.Proofs.Resolution.RelativeModule
import CodeSurvey.Proofs.Source.BraceBodies
import CodeSurvey.Proofs.Pattern.InLine
import CodeSurvey.Proofs.Source.ImportLines
import CodeSurvey.Proofs.Value.Fields
import CodeSurvey.Proofs.Rules.Layers
import CodeSurvey.Proofs.Rules.Overlay
import CodeSurvey.Proofs.Yaml.Names
import CodeSurvey.Proofs.Yaml.Written
import CodeSurvey.Proofs.Clone.FileOrder
import CodeSurvey.Proofs.Text.Blanks
import CodeSurvey.Proofs.Clone.EdgeBlanks
import CodeSurvey.Proofs.Clone.Layout
import CodeSurvey.Proofs.Graph.Degrees
import CodeSurvey.Proofs.Source.WrappedSignatures
import CodeSurvey.Proofs.Pattern.Reading
import CodeSurvey.Proofs.Text.Words
import CodeSurvey.Proofs.Source.NameLists
import CodeSurvey.Proofs.Source.ModuleImports
import CodeSurvey.Proofs.Source.ClauseImports
import CodeSurvey.Proofs.Source.Clauses
import CodeSurvey.Proofs.Graph.CycleLoops
import CodeSurvey.Proofs.Finding.IdleLines
import CodeSurvey.Proofs.Log.Consoles
import CodeSurvey.Proofs.Tree.Ways
import CodeSurvey.Proofs.Tree.Walked
import CodeSurvey.Proofs.Source.NameRuns
