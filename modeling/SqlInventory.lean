import SqlInventory.Audit.Call
import SqlInventory.Audit.Finding
import SqlInventory.Audit.Inline
import SqlInventory.Audit.Literal
import SqlInventory.Audit.Name
import SqlInventory.Audit.Scan
import SqlInventory.Audit.Snippet
import SqlInventory.Audit.Undeclared
import SqlInventory.Audit.Vocabulary
import SqlInventory.Catalog.Columns
import SqlInventory.Catalog.Entry
import SqlInventory.Catalog.Layout
import SqlInventory.Catalog.Marker
import SqlInventory.Catalog.ReadingJson
import SqlInventory.Catalog.Render
import SqlInventory.Catalog.Tables
import SqlInventory.Command.Action
import SqlInventory.Command.Catalog
import SqlInventory.Command.Console
import SqlInventory.Command.Emoji
import SqlInventory.Command.EmojiTable
import SqlInventory.Command.ErrorLog
import SqlInventory.Command.ExitCode
import SqlInventory.Command.Line
import SqlInventory.Command.Markup
import SqlInventory.Command.Scan
import SqlInventory.Command.Style
import SqlInventory.Command.Styled
import SqlInventory.Command.Usage
import SqlInventory.Failure
import SqlInventory.Json.Basic
import SqlInventory.Json.Parser
import SqlInventory.Json.Printer
import SqlInventory.LineNumber
import SqlInventory.Log.Entry
import SqlInventory.Log.Record
import SqlInventory.Main
import SqlInventory.Number.Double
import SqlInventory.Number.Shortest
import SqlInventory.Perl.Assignment
import SqlInventory.Perl.Gap
import SqlInventory.Perl.Heredoc
import SqlInventory.Perl.Lexeme
import SqlInventory.Perl.Source
import SqlInventory.Perl.Token
import SqlInventory.Perl.Tree
import SqlInventory.Perl.TreeJson
import SqlInventory.Proofs.Audit.Attribution
import SqlInventory.Proofs.Audit.FindingOrder
import SqlInventory.Proofs.Audit.InlineOnce
import SqlInventory.Proofs.Audit.Stages
import SqlInventory.Proofs.Audit.UndeclaredUses
import SqlInventory.Proofs.Catalog.DistinctIds
import SqlInventory.Proofs.Catalog.StatementKept
import SqlInventory.Proofs.Perl.Coverage
import SqlInventory.Proofs.Perl.GapFilling
import SqlInventory.Proofs.Perl.HeredocBodies
import SqlInventory.Proofs.Perl.HeredocWalk
import SqlInventory.Proofs.Perl.StatementIsolation
import SqlInventory.Proofs.Perl.TargetSide
import SqlInventory.Proofs.Perl.TokenLines
import SqlInventory.Proofs.Run.CompletionOrder
import SqlInventory.Proofs.Text.Decoding
import SqlInventory.Proofs.Text.Essence
import SqlInventory.Proofs.Text.LetterCase
import SqlInventory.Proofs.Text.Matching
import SqlInventory.Proofs.Text.Order
import SqlInventory.Proofs.Text.WholeWord
import SqlInventory.Report.Record
import SqlInventory.Report.Render
import SqlInventory.Run.Outcome
import SqlInventory.Run.Scan
import SqlInventory.Settings.Coerce
import SqlInventory.Settings.Key
import SqlInventory.Settings.Load
import SqlInventory.Settings.Words
import SqlInventory.Text.Basic
import SqlInventory.Text.Case
import SqlInventory.Text.CaseTable
import SqlInventory.Text.Columns
import SqlInventory.Text.Digit
import SqlInventory.Text.Glob
import SqlInventory.Text.Matching
import SqlInventory.Text.Numeral
import SqlInventory.Text.Printable
import SqlInventory.Text.Quoted
import SqlInventory.Text.Ranges
import SqlInventory.Text.Utf8
import SqlInventory.Text.WholeWord
import SqlInventory.Text.Word
import SqlInventory.Workspace.Discover
import SqlInventory.Workspace.Locate
import SqlInventory.Workspace.Path
import SqlInventory.Workspace.Tree
import SqlInventory.Yaml.Printer
import SqlInventory.Yaml.Scalar
import SqlInventory.Proofs.Json.DistinctKeys
import SqlInventory.Proofs.Settings.Sources
import SqlInventory.Proofs.Settings.Interference
import SqlInventory.Proofs.Settings.Priority
import SqlInventory.Proofs.Settings.WordLists
import SqlInventory.Proofs.Audit.ListedVerbs
import SqlInventory.Proofs.Catalog.AssignedIds
import SqlInventory.Proofs.Catalog.MarkersTaken
import SqlInventory.Proofs.Json.StringReading
import SqlInventory.Proofs.Json.UniqueReading
import SqlInventory.Proofs.Report.Faithful
import SqlInventory.Proofs.Text.Constants
import SqlInventory.Proofs.Catalog.ConstantsKept
import SqlInventory.Proofs.Perl.GapPartition
import SqlInventory.Proofs.Perl.HeredocEnd
import SqlInventory.Proofs.Text.Words
import SqlInventory.Proofs.Audit.CallSites
import SqlInventory.Proofs.Audit.SnippetVerb
import SqlInventory.Proofs.Perl.TargetReading
import SqlInventory.Proofs.Audit.ReportedText
import SqlInventory.Proofs.Audit.ListedRuns
import SqlInventory.Proofs.Audit.ShownLiterals
import SqlInventory.Proofs.Audit.NameParts
import SqlInventory.Proofs.Catalog.NamedTables
import SqlInventory.Proofs.Text.GlobMatching
import SqlInventory.Proofs.Workspace.SourceFiles
import SqlInventory.Proofs.Number.Rounding
import SqlInventory.Proofs.Number.ShortestDecimals
import SqlInventory.Proofs.Json.NumberReading
import SqlInventory.Proofs.Json.CompactReading
import SqlInventory.Proofs.Catalog.JsonLines
import SqlInventory.Proofs.Catalog.ColumnCells
import SqlInventory.Proofs.Perl.LiteralQuoting
