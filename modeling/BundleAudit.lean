import BundleAudit.Attempts
import BundleAudit.CommandLine.Arguments
import BundleAudit.CommandLine.Help
import BundleAudit.CommandLine.Program
import BundleAudit.CommandLine.Suggestion
import BundleAudit.Console.Handler
import BundleAudit.Console.Lines
import BundleAudit.Console.Markup
import BundleAudit.Console.Picture
import BundleAudit.Console.Rendering
import BundleAudit.Console.Style
import BundleAudit.Console.Table
import BundleAudit.Decimal.Binary
import BundleAudit.Decimal.Nearest
import BundleAudit.Decimal.Places
import BundleAudit.Decimal.Shortest
import BundleAudit.Detection
import BundleAudit.Discovery
import BundleAudit.FileSystem.Path
import BundleAudit.FileSystem.Tree
import BundleAudit.Finding
import BundleAudit.Glob
import BundleAudit.Json
import BundleAudit.Log
import BundleAudit.Main
import BundleAudit.Profile.Basic
import BundleAudit.Profile.Draft
import BundleAudit.Profile.Loading
import BundleAudit.Proofs.CommandLine.Announcement
import BundleAudit.Proofs.CommandLine.CheckCall
import BundleAudit.Proofs.CommandLine.Checking
import BundleAudit.Proofs.CommandLine.Coverage
import BundleAudit.Proofs.CommandLine.ExitStatus
import BundleAudit.Proofs.CommandLine.Listing
import BundleAudit.Proofs.CommandLine.ProfileCall
import BundleAudit.Proofs.CommandLine.Relisting
import BundleAudit.Proofs.CommandLine.Runs
import BundleAudit.Proofs.Console.Escaping
import BundleAudit.Proofs.Console.Literal
import BundleAudit.Proofs.Console.Markup
import BundleAudit.Proofs.Discovery
import BundleAudit.Proofs.FileSystem.Entries
import BundleAudit.Proofs.FileSystem.Path
import BundleAudit.Proofs.FileSystem.Relisting
import BundleAudit.Proofs.Firsts
import BundleAudit.Proofs.Profile.Inheritance
import BundleAudit.Proofs.Profile.Overriding
import BundleAudit.Proofs.Profile.Parents
import BundleAudit.Proofs.Profile.Run
import BundleAudit.Proofs.Profile.SharedChain
import BundleAudit.Proofs.Profile.Unforeseen
import BundleAudit.Proofs.Profile.Validity
import BundleAudit.Proofs.Profile.Values
import BundleAudit.Proofs.Regex.Language
import BundleAudit.Proofs.Regex.Occurrence
import BundleAudit.Proofs.Regex.Places
import BundleAudit.Proofs.Regex.Repetition
import BundleAudit.Proofs.Regex.Search
import BundleAudit.Proofs.Regex.Unanchored
import BundleAudit.Proofs.Regex.WordEdge
import BundleAudit.Proofs.Regex.Written
import BundleAudit.Proofs.Regex.WrittenParts
import BundleAudit.Proofs.Registry.Agreement
import BundleAudit.Proofs.Registry.Calls
import BundleAudit.Proofs.Registry.Comments
import BundleAudit.Proofs.Registry.Completion
import BundleAudit.Proofs.Registry.Coverage
import BundleAudit.Proofs.Registry.Isolation
import BundleAudit.Proofs.Registry.Monotonicity
import BundleAudit.Proofs.Registry.Outcomes
import BundleAudit.Proofs.Registry.Reading
import BundleAudit.Proofs.Registry.Registration
import BundleAudit.Proofs.Registry.Schedule
import BundleAudit.Proofs.Registry.Selection
import BundleAudit.Proofs.Registry.Severities
import BundleAudit.Proofs.Registry.Verdict
import BundleAudit.Proofs.Report.Accounting
import BundleAudit.Proofs.Report.Advice
import BundleAudit.Proofs.Report.Blocks
import BundleAudit.Proofs.Report.Findings
import BundleAudit.Proofs.Report.Presentation
import BundleAudit.Proofs.Report.Recording
import BundleAudit.Proofs.Report.SharedKeys
import BundleAudit.Proofs.Report.Sheet
import BundleAudit.Proofs.Report.StableSort
import BundleAudit.Proofs.Rule.Clamping
import BundleAudit.Proofs.Rule.CodeBetweenLiterals
import BundleAudit.Proofs.Rule.Defaults
import BundleAudit.Proofs.Rule.Leniency
import BundleAudit.Proofs.Rule.LineNumbers
import BundleAudit.Proofs.Rule.LiteralNames
import BundleAudit.Proofs.Rule.Publication
import BundleAudit.Proofs.Rule.QuotedAccess
import BundleAudit.Proofs.Rule.Signing
import BundleAudit.Proofs.Rule.StandaloneName
import BundleAudit.Proofs.Rule.Tally
import BundleAudit.Proofs.Rule.TargetCounts
import BundleAudit.Proofs.Rule.WrittenForms
import BundleAudit.Proofs.Source.CommentContents
import BundleAudit.Proofs.Source.Drift
import BundleAudit.Proofs.Source.EscapeBit
import BundleAudit.Proofs.Source.Idempotence
import BundleAudit.Proofs.Source.LineByLine
import BundleAudit.Proofs.Source.LineEnds
import BundleAudit.Proofs.Source.Location
import BundleAudit.Proofs.Source.Marks
import BundleAudit.Proofs.Source.Origin
import BundleAudit.Proofs.Source.Piece
import BundleAudit.Proofs.Source.Stripping
import BundleAudit.Proofs.Text.Lowering
import BundleAudit.Proofs.Text.Words
import BundleAudit.Regex.CharClass
import BundleAudit.Regex.Expr
import BundleAudit.Regex.Matching
import BundleAudit.Regex.Reader
import BundleAudit.Registry
import BundleAudit.Report.Basic
import BundleAudit.Report.Document
import BundleAudit.Report.Hints
import BundleAudit.Report.Text
import BundleAudit.Rule.Basic
import BundleAudit.Rule.BuildTarget
import BundleAudit.Rule.DependencyExclusion
import BundleAudit.Rule.DynamicEval
import BundleAudit.Rule.GlobalExport
import BundleAudit.Rule.Outcome
import BundleAudit.Rule.SchemeGuard
import BundleAudit.Settings
import BundleAudit.Source.Bundle
import BundleAudit.Source.Comments
import BundleAudit.Source.Location
import BundleAudit.Text.Blank
import BundleAudit.Text.CellWidth
import BundleAudit.Text.Digit
import BundleAudit.Text.Integer
import BundleAudit.Text.LetterCase
import BundleAudit.Text.Printable
import BundleAudit.Text.Quoted
import BundleAudit.Text.Utf8
import BundleAudit.Text.Word
import BundleAudit.Time.Calendar
import BundleAudit.Time.DateTime
import BundleAudit.Time.Stamp
import BundleAudit.Yaml.Cursor
import BundleAudit.Yaml.Document
import BundleAudit.Yaml.Node
import BundleAudit.Yaml.Scalar
import BundleAudit.Yaml.Tag
import BundleAudit.Yaml.Token
import BundleAudit.Yaml.TokenStream
