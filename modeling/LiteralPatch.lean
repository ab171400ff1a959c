import LiteralPatch.Backup
import LiteralPatch.CharSet
import LiteralPatch.Command.Apply
import LiteralPatch.Command.Arguments
import LiteralPatch.Command.Environment
import LiteralPatch.Command.Help
import LiteralPatch.Command.Inspect
import LiteralPatch.Command.Line
import LiteralPatch.Command.Paint
import LiteralPatch.Command.Prepare
import LiteralPatch.Command.Reply
import LiteralPatch.Command.Restore
import LiteralPatch.Diff.Hunk
import LiteralPatch.Diff.Lines
import LiteralPatch.Diff.Script
import LiteralPatch.Diff.Slide
import LiteralPatch.Digest
import LiteralPatch.Edit
import LiteralPatch.Files.Fault
import LiteralPatch.Files.Path
import LiteralPatch.Files.System
import LiteralPatch.Files.Utf8
import LiteralPatch.Files.Write
import LiteralPatch.Json.Pretty
import LiteralPatch.Json.Value
import LiteralPatch.Main
import LiteralPatch.Patch
import LiteralPatch.Pattern
import LiteralPatch.Pattern.Assertion
import LiteralPatch.Pattern.Bracket
import LiteralPatch.Pattern.Cache
import LiteralPatch.Pattern.Escape
import LiteralPatch.Pattern.Expr
import LiteralPatch.Pattern.Fault
import LiteralPatch.Pattern.Program
import LiteralPatch.Pattern.Reader
import LiteralPatch.Pattern.Scan
import LiteralPatch.Pattern.Search
import LiteralPatch.Profile
import LiteralPatch.Profile.Document
import LiteralPatch.Proofs.Attempts
import LiteralPatch.Proofs.Command.Abstention
import LiteralPatch.Proofs.Command.Arguments
import LiteralPatch.Proofs.Command.JsonOutput
import LiteralPatch.Proofs.Edit.Overlap
import LiteralPatch.Proofs.Edit.Splicing
import LiteralPatch.Proofs.Files.Beside
import LiteralPatch.Proofs.Files.Inside
import LiteralPatch.Proofs.Files.Places
import LiteralPatch.Proofs.Files.Replaced
import LiteralPatch.Proofs.Json.Grammar
import LiteralPatch.Proofs.Json.Layout
import LiteralPatch.Proofs.Json.Reader
import LiteralPatch.Proofs.Patch.Trail
import LiteralPatch.Proofs.Patch.Undo
import LiteralPatch.Proofs.Pattern.Cached
import LiteralPatch.Proofs.Pattern.Matches
import LiteralPatch.Proofs.Pattern.Numbering
import LiteralPatch.Proofs.Pattern.Pieces
import LiteralPatch.Proofs.Pattern.Reading
import LiteralPatch.Proofs.Pattern.Spelling
import LiteralPatch.Proofs.Pattern.Steps
import LiteralPatch.Proofs.Profile.Document
import LiteralPatch.Proofs.Profile.Lockstep
import LiteralPatch.Proofs.Profile.Once
import LiteralPatch.Proofs.Profile.Patterns
import LiteralPatch.Proofs.Profile.Recast
import LiteralPatch.Proofs.Profile.Settling
import LiteralPatch.Proofs.Profile.Traces
import LiteralPatch.Proofs.Profile.Unfailing
import LiteralPatch.Proofs.Profile.WholeWords
import LiteralPatch.Proofs.Report.Lossless
import LiteralPatch.Proofs.Rule.Applied
import LiteralPatch.Proofs.Rule.Captured
import LiteralPatch.Proofs.Rule.Compiled
import LiteralPatch.Proofs.Rule.Fallbacks
import LiteralPatch.Proofs.Rule.Filled
import LiteralPatch.Proofs.Rule.FlagAsValue
import LiteralPatch.Proofs.Rule.FlagFound
import LiteralPatch.Proofs.Rule.FlagPasses
import LiteralPatch.Proofs.Rule.FlagRuns
import LiteralPatch.Proofs.Rule.FlagShape
import LiteralPatch.Proofs.Rule.FlagValid
import LiteralPatch.Proofs.Rule.FlagsCommute
import LiteralPatch.Proofs.Rule.Groups
import LiteralPatch.Proofs.Rule.Guarded
import LiteralPatch.Proofs.Rule.Orderly
import LiteralPatch.Proofs.Rule.Reworded
import LiteralPatch.Proofs.Rule.Rewriting
import LiteralPatch.Proofs.Rule.Successive
import LiteralPatch.Proofs.Rule.Tied
import LiteralPatch.Proofs.Run.Lifecycle
import LiteralPatch.Proofs.Run.Stages
import LiteralPatch.Proofs.Run.WholeOrUntouched
import LiteralPatch.Proofs.Table.Agreement
import LiteralPatch.Proofs.Table.Bounds
import LiteralPatch.Proofs.Table.Defects
import LiteralPatch.Proofs.Table.Directory
import LiteralPatch.Proofs.Table.Failures
import LiteralPatch.Proofs.Table.Valid
import LiteralPatch.Proofs.Table.WellFormed
import LiteralPatch.Proofs.Text.ByteOrder
import LiteralPatch.Proofs.Text.Front
import LiteralPatch.Proofs.Text.Number
import LiteralPatch.Proofs.Text.WordRuns
import LiteralPatch.Proofs.Unicode.Folding
import LiteralPatch.Proofs.Version.Host
import LiteralPatch.Proofs.Version.Interval
import LiteralPatch.Proofs.Version.Strict
import LiteralPatch.Report
import LiteralPatch.Report.Json
import LiteralPatch.Rule
import LiteralPatch.Rule.Capture
import LiteralPatch.Rule.Flag
import LiteralPatch.Rule.Guard
import LiteralPatch.Run
import LiteralPatch.Span
import LiteralPatch.Table.Decode
import LiteralPatch.Table.Definition
import LiteralPatch.Table.Load
import LiteralPatch.Table.Validation
import LiteralPatch.Text.Number
import LiteralPatch.Text.Offset
import LiteralPatch.Text.Quoted
import LiteralPatch.Text.Similarity
import LiteralPatch.Text.Words
import LiteralPatch.Toml.Document
import LiteralPatch.Toml.Reader
import LiteralPatch.Toml.Scalar
import LiteralPatch.Toml.Text
import LiteralPatch.Toml.Value
import LiteralPatch.Unicode.Binary
import LiteralPatch.Unicode.Category
import LiteralPatch.Unicode.Fold
import LiteralPatch.Unicode.Property
import LiteralPatch.Unicode.Script
import LiteralPatch.Unicode.Word
import LiteralPatch.Version
import LiteralPatch.Version.Fault
import LiteralPatch.Version.Reader
import LiteralPatch.Version.Requirement
