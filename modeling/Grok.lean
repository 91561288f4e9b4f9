import Grok.CommandLine.Basic
import Grok.CommandLine.Parse
import Grok.CommandLine.Run
import Grok.Compiler
import Grok.Config
import Grok.Dictionary.Basic
import Grok.Error
import Grok.Expansion
import Grok.FileTree.Basic
import Grok.FileTree.Walk
import Grok.Library.Builtin
import Grok.Library.Directory
import Grok.Library.Load
import Grok.Main
import Grok.Metric.Basic
import Grok.Metric.Definition
import Grok.Metric.Document
import Grok.Metric.Sample
import Grok.Number.Basic
import Grok.Number.Decimal
import Grok.Number.Shortest
import Grok.Pattern
import Grok.PatternFile
import Grok.Placeholder
import Grok.Proofs.Brackets.Opening
import Grok.Proofs.Brackets.Scan
import Grok.Proofs.CommandLine.Verdicts
import Grok.Proofs.Dictionary.Algebra
import Grok.Proofs.Dictionary.Lookup
import Grok.Proofs.Dictionary.Size
import Grok.Proofs.Expansion.Concatenation
import Grok.Proofs.Expansion.Cycle
import Grok.Proofs.Expansion.Derivation
import Grok.Proofs.Expansion.Enclosure
import Grok.Proofs.Expansion.FixedPoint
import Grok.Proofs.Expansion.GroupOrder
import Grok.Proofs.Expansion.Inlining
import Grok.Proofs.Expansion.Layout
import Grok.Proofs.Expansion.Leftmost
import Grok.Proofs.Expansion.Limit
import Grok.Proofs.Expansion.Locality
import Grok.Proofs.Expansion.Location
import Grok.Proofs.Expansion.Machine
import Grok.Proofs.Expansion.Path
import Grok.Proofs.Expansion.Settled
import Grok.Proofs.Expansion.Step
import Grok.Proofs.Expansion.Unfolding
import Grok.Proofs.FileTree.Growth
import Grok.Proofs.FileTree.Hidden
import Grok.Proofs.FileTree.Lookup
import Grok.Proofs.FileTree.Visible
import Grok.Proofs.Library.Builtin
import Grok.Proofs.Library.Directory
import Grok.Proofs.Library.Hidden
import Grok.Proofs.Library.Joining
import Grok.Proofs.Library.Loaded
import Grok.Proofs.Library.Sources
import Grok.Proofs.Library.Warnings
import Grok.Proofs.Metric.Acceptance
import Grok.Proofs.Metric.Document
import Grok.Proofs.Metric.Fields
import Grok.Proofs.Metric.Printing
import Grok.Proofs.Metric.Sample
import Grok.Proofs.Pattern.GroupTable
import Grok.Proofs.Pattern.LastGroup
import Grok.Proofs.PatternFile.Grammar
import Grok.Proofs.PatternFile.Printing
import Grok.Proofs.PatternFile.Splitting
import Grok.Proofs.PatternFile.Warnings
import Grok.Proofs.Placeholder.Grammar
import Grok.Proofs.Placeholder.Refusal
import Grok.Proofs.Regex.BacktrackingNames
import Grok.Proofs.Regex.LinearNames
import Grok.Proofs.Report
import Grok.Proofs.Session.Independence
import Grok.Proofs.Shared.FirstSetUp
import Grok.Proofs.Template.Cut
import Grok.Proofs.Text.Encoding
import Grok.Proofs.Text.Line
import Grok.Proofs.Text.Quoted
import Grok.Proofs.Text.Trim
import Grok.Regex.Backtracking.Escape
import Grok.Regex.Backtracking.Expr
import Grok.Regex.Backtracking.Parser
import Grok.Regex.Backtracking.Program
import Grok.Regex.Backtracking.Reader
import Grok.Regex.Backtracking.Search
import Grok.Regex.Backtracking.Shape
import Grok.Regex.Backtracking.Written
import Grok.Regex.Basic
import Grok.Regex.ClassName
import Grok.Regex.Failure
import Grok.Regex.Linear.Class
import Grok.Regex.Linear.Escape
import Grok.Regex.Linear.Expr
import Grok.Regex.Linear.Flags
import Grok.Regex.Linear.Parser
import Grok.Regex.Linear.Program
import Grok.Regex.Linear.Search
import Grok.Regex.Look
import Grok.Report
import Grok.Session
import Grok.Shared
import Grok.Template
import Grok.Text.Basic
import Grok.Text.Blank
import Grok.Text.Line
import Grok.Text.Order
import Grok.Text.Quoted
import Grok.Unicode.CaseFold
import Grok.Unicode.Category
import Grok.Unicode.CharSet
import Grok.Unicode.Property
import Grok.Unicode.Script
import Grok.Yaml.Cursor
import Grok.Yaml.Lexer
import Grok.Yaml.Node
import Grok.Yaml.Parser
import Grok.Yaml.Property
import Grok.Yaml.Scalar
import Grok.Yaml.Token
