import MessageKeys.Text.Basic
import MessageKeys.Text.CodeRanges
import MessageKeys.Distinct
import MessageKeys.Text.Word
import MessageKeys.Text.LetterCase
import MessageKeys.Text.Printable
import MessageKeys.Text.Blank
import MessageKeys.Call.Quoting
import MessageKeys.Call.Argument
import MessageKeys.Call.Name
import MessageKeys.Call.Expression
import MessageKeys.Call.ArgumentList
import MessageKeys.Call.Supply
import MessageKeys.Template.Placeholder
import MessageKeys.Text.Occurrence
import MessageKeys.Call.Site
import MessageKeys.Diagnostic
import MessageKeys.Text.Letter
import MessageKeys.Text.CaseFolding
import MessageKeys.Text.Utf8Ranges
import MessageKeys.Regex.Basic
import MessageKeys.Regex.Program
import MessageKeys.Regex.Match
import MessageKeys.Regex.Flags
import MessageKeys.Regex.Layout
import MessageKeys.Character.Definition
import MessageKeys.Character.Category
import MessageKeys.Character.Trait
import MessageKeys.Character.Script
import MessageKeys.Character.Age
import MessageKeys.Character.Segment
import MessageKeys.Regex.Property
import MessageKeys.Regex.Escape
import MessageKeys.Regex.Bracket
import MessageKeys.Regex.Token
import MessageKeys.Regex.Size
import MessageKeys.Regex.Parser
import MessageKeys.Reference
import MessageKeys.Reference.Automaton
import MessageKeys.Source.LineIndex
import MessageKeys.Properties.Entry
import MessageKeys.Properties.Catalog
import MessageKeys.Properties.Insertion
import MessageKeys.Json.Basic
import MessageKeys.Json.Printer
import MessageKeys.Json.Parser
import MessageKeys.Text.Width
import MessageKeys.Text.Width.Emoji
import MessageKeys.Text.Width.Ligature
import MessageKeys.Text.Width.Wide
import MessageKeys.Text.Width.Zero
import MessageKeys.Report.Style
import MessageKeys.Issue
import MessageKeys.Issue.Find
import MessageKeys.Report.Result
import MessageKeys.Report.Layout
import MessageKeys.Path
import MessageKeys.Text.Utf8
import MessageKeys.FileTree
import MessageKeys.Glob.Pattern
import MessageKeys.Glob.Walk
import MessageKeys.Text.Quoted
import MessageKeys.Config.Basic
import MessageKeys.Config.Load
import MessageKeys.Source.Position
import MessageKeys.Source.Scan
import MessageKeys.Properties.Load
import MessageKeys.Properties.Edit
import MessageKeys.Project.Note
import MessageKeys.Project.Basic
import MessageKeys.Project.Check
import MessageKeys.CommandLine.Basic
import MessageKeys.CommandLine.Grammar
import MessageKeys.CommandLine.Parser
import MessageKeys.Project.AddKey
import MessageKeys.Command.Outcome
import MessageKeys.Command.Inspect
import MessageKeys.Command.Change
import MessageKeys.Command.Run
import MessageKeys.Agent.Page
import MessageKeys.Agent.Request
import MessageKeys.Agent.Answer
import MessageKeys.Main
import MessageKeys.Proofs.Call.Rendering
import MessageKeys.Proofs.Text.Trimming
import MessageKeys.Proofs.Properties.Definitions
import MessageKeys.Proofs.Properties.Insertion
import MessageKeys.Proofs.FileTree.Following
import MessageKeys.Proofs.FileTree.Writing
import MessageKeys.Proofs.Properties.Batch
import MessageKeys.Proofs.Project.Addition
import MessageKeys.Proofs.FileTree.Saving
import MessageKeys.Proofs.Properties.Loading
import MessageKeys.Proofs.Distinct
import MessageKeys.Proofs.Text.Standing
import MessageKeys.Proofs.Reference.Places
import MessageKeys.Proofs.Issue.Undefined
import MessageKeys.Proofs.Issue.Ranges
import MessageKeys.Proofs.Glob.Grammar
import MessageKeys.Proofs.Reference.Automaton
import MessageKeys.Proofs.Project.Validity
import MessageKeys.Proofs.Path.Destination
import MessageKeys.Proofs.Path.Parent
import MessageKeys.Proofs.Config.Lookup
import MessageKeys.Proofs.Glob.Spelling
import MessageKeys.Proofs.Source.Scanning
import MessageKeys.Proofs.Project.Repair
import MessageKeys.Proofs.Source.LineColumn
import MessageKeys.Proofs.Call.KeyPosition
import MessageKeys.Proofs.Issue.Placeholders
import MessageKeys.Proofs.Agent.Paging
import MessageKeys.Proofs.Agent.Succession
import MessageKeys.Proofs.Issue.Diagnostics
import MessageKeys.Proofs.Project.Enumeration
import MessageKeys.Proofs.Diagnostic
import MessageKeys.Proofs.Call.Spans
import MessageKeys.Proofs.Source.LineText
import MessageKeys.Proofs.Source.Position
import MessageKeys.Proofs.Reference.Lookup
import MessageKeys.Proofs.Issue.Location
import MessageKeys.Proofs.Reference.Literal
import MessageKeys.Proofs.Call.Overlap
import MessageKeys.Proofs.Project.Repetition
import MessageKeys.Proofs.FileTree.Frame
import MessageKeys.Proofs.FileTree.Growth
import MessageKeys.Proofs.Properties.OneFile
import MessageKeys.Proofs.Properties.SeveralFiles
import MessageKeys.Proofs.Properties.Singly
import MessageKeys.Proofs.Properties.AnyOrder
import MessageKeys.Proofs.Properties.Stopped
import MessageKeys.Proofs.Project.Atomicity
import MessageKeys.Proofs.Properties.Placement
import MessageKeys.Proofs.Sorting
import MessageKeys.Proofs.Properties.History
import MessageKeys.Proofs.Text.LetterCase
import MessageKeys.Proofs.Properties.Search
import MessageKeys.Proofs.FileTree.Spelling
import MessageKeys.Proofs.Properties.Precedence
import MessageKeys.Proofs.CommandLine.Flag
import MessageKeys.Proofs.Command.Verbosity
import MessageKeys.Proofs.CommandLine.Reading
import MessageKeys.Proofs.Properties.LineEnds
import MessageKeys.Proofs.Properties.WithReturns
import MessageKeys.Proofs.Properties.Preservation
import MessageKeys.Proofs.Properties.Commutation
import MessageKeys.Proofs.Properties.Ordering
import MessageKeys.Proofs.Template.Matching
import MessageKeys.Proofs.Template.Placeholders
import MessageKeys.Proofs.Template.Numbering
import MessageKeys.Proofs.Call.TopLevel
import MessageKeys.Proofs.Call.Cutting
import MessageKeys.Proofs.Call.Rejoining
import MessageKeys.Proofs.Call.Names
import MessageKeys.Proofs.Call.ArrayOpening
import MessageKeys.Proofs.Call.Supply
import MessageKeys.Proofs.Call.MemberCall
import MessageKeys.Proofs.Call.ArrayLiteral
import MessageKeys.Proofs.Call.Nesting
import MessageKeys.Proofs.Call.Ambiguity
import MessageKeys.Proofs.Text.Bytes
import MessageKeys.Proofs.Call.Closing
import MessageKeys.Proofs.Source.Visible
import MessageKeys.Proofs.Source.LineCount
import MessageKeys.Proofs.Source.Words
import MessageKeys.Proofs.Call.Finding
import MessageKeys.Proofs.Report.Gutter
import MessageKeys.Proofs.Report.Color
import MessageKeys.Proofs.Json.RoundTrip
import MessageKeys.Proofs.Config.RoundTrip
