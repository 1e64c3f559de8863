import MessageKeys.Report.Result
import MessageKeys.Report.Style
import MessageKeys.Text.Width

/-!
The layout of reports.

An issue is shown by its severity, message and rule, its place, the line of source with a caret
under the column, a note and a hint, and a blank line. Line numbers stand right-aligned in a gutter
that is as wide as the largest of them. A summary ends the report.
-/
namespace MessageKeys.Report

open Styled

def successMark : Text := [Char.ofNat 0x2713]

def failureMark : Text := [Char.ofNat 0x2718]

/-- The one form for one thing and the other for several. -/
def plural (count : Nat) (one many : String) : Text := (if count = 1 then one else many).toList

def blue (text : String) : Styled := styled (.colored .blue) text.toList

def green (text : Text) : Styled := styled (.colored .green) text

/-- The colour that goes with a severity. -/
def severityColor : Severity → Color
  | .error => .red
  | .warning => .yellow

/-- Number of columns of the gutter. -/
def gutterWidth (issues : List Issue) : Nat :=
  match (issues.filterMap Issue.context?).map (·.location.line) with
  | [] => 1
  | first :: more => (Text.ofNat (more.foldl max first)).length

/-- A line whose gutter holds no number. -/
def gutter (width : Nat) (mark : String) (rest : Styled) : Styled :=
  line (plain (Text.padLeft width []) ++ literal " " ++ blue mark ++ rest)

/-- The line of source and the caret under its column. -/
def sourceLines (width : Nat) (severity : Severity) (context : SourceContext) : Styled :=
  let number := Text.padLeft width (Text.ofNat context.location.line)
  let padding := Text.width (context.sourceLine.take (context.location.column - 1))
  gutter width "|" [] ++
    line (styled (.colored .blue) number ++ literal " " ++ blue "|" ++ literal " " ++
      plain context.sourceLine) ++
    gutter width "|" (plain (List.replicate (padding + 1) ' ') ++
      styled (.colored (severityColor severity)) ['^'])

/-- A remark under the line of source. -/
def remark (width : Nat) (style : Style) (title : String) (text : Text) : Styled :=
  gutter width "=" (literal " " ++ styled style title.toList ++ literal " " ++ plain text)

/-- The place of an issue; a line number of zero is not shown. -/
def place (issue : Issue) : Text :=
  if 0 < issue.line then
    Text.join [':'] [issue.file, Text.ofNat issue.line, Text.ofNat issue.column]
  else issue.file

/-- One issue. -/
def issueLines (width : Nat) (issue : Issue) : Styled :=
  line (styled (.boldColored (severityColor issue.severity)) issue.severity.name ++
      literal ": \"" ++ plain issue.message ++ literal "\"  " ++
      styled ⟨false, true, some .cyan⟩ issue.rule.name) ++
    line (literal "  " ++ blue "-->" ++ literal " " ++ plain (place issue)) ++
    (match issue.context? with
      | some context => sourceLines width issue.severity context
      | none => []) ++
    (match issue.details? with
      | some details => remark width .justBold "note:" details
      | none => []) ++
    (match issue.hint? with
      | some hint => remark width (.boldColored .cyan) "hint:" hint
      | none => []) ++
    line []

/-- How many problems of each severity there are. -/
def summary (issues : List Issue) : Styled :=
  let errors := issues.countP fun issue => issue.severity == .error
  let warnings := issues.length - errors
  line (styled (.colored .red) failureMark ++ plain (' ' :: Text.ofNat issues.length) ++
    literal " problems (" ++ plain (Text.ofNat errors) ++ literal " " ++
    styled (.colored .red) (plural errors "error" "errors") ++ literal ", " ++
    plain (Text.ofNat warnings) ++ literal " " ++
    styled (.colored .yellow) (plural warnings "warning" "warnings") ++ literal ")")

/-- All issues and the summary; nothing where there are no issues. -/
def ofIssues (issues : List Issue) : Styled :=
  if issues = [] then []
  else issues.flatMap (issueLines (gutterWidth issues)) ++ summary issues

/-- A line that reports success. -/
def success (text : Text) : Styled := line (green successMark ++ literal " " ++ green text)

/-- The line for a check without issues. -/
def clean (sourceFiles propertiesFiles : Nat) : Styled :=
  success <| "Checked ".toList ++ Text.ofNat sourceFiles ++ " source ".toList ++
    plural sourceFiles "file" "files" ++ ", ".toList ++ Text.ofNat propertiesFiles ++
    " properties ".toList ++ plural propertiesFiles "file" "files" ++ " - no issues found".toList

/-- A pointer to files that could not be read, unless details were given. -/
def unreadableWarning (count : Nat) (verbose : Bool) : Styled :=
  if 0 < count ∧ ¬verbose then
    line (styled (.boldColored .yellow) "warning:".toList ++ plain (' ' :: Text.ofNat count) ++
      literal " file(s) could not be parsed (use " ++ styled (.colored .cyan) "-v".toList ++
      literal " for details)")
  else []

/-- A message definition: template, place and placeholders. -/
def entry (entry : Entry) : Styled :=
  let placeholders := Template.PlaceholderSet.parse entry.value
  line (styled .justBold entry.key ++ literal " = " ++ plain entry.value) ++
    line (literal "  " ++ blue "-->" ++ literal " " ++
      plain (Text.join [':'] [entry.file, Text.ofNat entry.line])) ++
    (if placeholders.indices = [] then []
      else
        line (literal "   " ++ blue "=" ++ literal " " ++ styled .justBold "placeholders:".toList ++
          literal " " ++ plain placeholders.describe) ++
        (if placeholders.isWellFormed then []
          else
            line (literal "   " ++ blue "=" ++ literal " " ++
              styled (.boldColored .yellow) "warning:".toList ++
              literal " numbering must start at \x7b0\x7d and be contiguous")))

end MessageKeys.Report
