import NodeLint.Main
import NodeLint.Proofs.Sorted
import NodeLint.Proofs.Occurrence
import NodeLint.Proofs.Derivation
import NodeLint.Proofs.Reader
import NodeLint.Proofs.Lines
import NodeLint.Proofs.ClassKeyword
import NodeLint.Proofs.Gap
import NodeLint.Proofs.Phrase
import NodeLint.Proofs.Extent
import NodeLint.Proofs.LogicalLine
import NodeLint.Proofs.Check
import NodeLint.Proofs.Pragma
import NodeLint.Proofs.Spelling
import NodeLint.Proofs.StatementRange
import NodeLint.Proofs.LevelOrder
import NodeLint.Proofs.Decoration
import NodeLint.Proofs.Suppression
import NodeLint.Proofs.Collection
import NodeLint.Proofs.Governance
import NodeLint.Proofs.Literal
import NodeLint.Proofs.FileTree
import NodeLint.Proofs.Glob
import NodeLint.Proofs.Discovery
import NodeLint.Proofs.Base
import NodeLint.Proofs.DirectoryPattern
import NodeLint.Proofs.InnerStars
import NodeLint.Proofs.Subtree
import NodeLint.Proofs.DefaultPattern
import NodeLint.Proofs.Member
import NodeLint.Proofs.Utf8
import NodeLint.Proofs.LineBreak
import NodeLint.Proofs.Run
import NodeLint.Proofs.Escape
import NodeLint.Proofs.FormattedString
import NodeLint.Proofs.StringLiteral
import NodeLint.Proofs.Batch
import NodeLint.Proofs.Settings.Problems
import NodeLint.Proofs.Settings.Schema
import NodeLint.Proofs.Path
import NodeLint.Proofs.Settings.RoundTrip
import NodeLint.Proofs.Settings.Reordering
import NodeLint.Proofs.CommandLine.Lint
import NodeLint.Proofs.CommandLine.Presentation
import NodeLint.Proofs.Settings.Load
import NodeLint.Proofs.Severity
import NodeLint.Proofs.DeadPragma
import NodeLint.Proofs.DecoratedPragma
import NodeLint.Proofs.Block
import NodeLint.Proofs.Json.Grammar
import NodeLint.Proofs.Json.Rendering
import NodeLint.Proofs.Report
import NodeLint.Proofs.Colour
