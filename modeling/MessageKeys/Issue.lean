import MessageKeys.Diagnostic
import MessageKeys.Properties.Catalog
import MessageKeys.Reference
import MessageKeys.Source.LineIndex

/-!
Issues: what a check finds, where, and how serious it is.

There are three kinds: a call whose placeholders do not fit, a reference to a key that no file
defines, and a file that could not be read. Issues have an order of their own: by file, line,
column, rule and message, a file that could not be read counting as line and column zero.
-/
namespace MessageKeys

inductive Severity where
  | error
  | warning
  deriving DecidableEq, Repr

def Severity.name : Severity → Text
  | error => "error".toList
  | warning => "warning".toList

/-- The rule that an issue breaks, in the order in which issues at one place are listed. -/
inductive Rule where
  | placeholderNumbering
  | placeholderCount
  | undefinedKey
  | parseError
  deriving DecidableEq, Repr

namespace Rule

def name : Rule → Text
  | placeholderNumbering => "placeholder-numbering".toList
  | placeholderCount => "placeholder-count".toList
  | undefinedKey => "undefined-key".toList
  | parseError => "parse-error".toList

def rank : Rule → Nat
  | placeholderNumbering => 0
  | placeholderCount => 1
  | undefinedKey => 2
  | parseError => 3

def ofKind : DiagnosticKind → Rule
  | .numbering => placeholderNumbering
  | .count => placeholderCount

end Rule

/-- A call that does not fit the template of its key. -/
structure PlaceholderIssue where
  context : SourceContext
  key : Text
  template : Text
  kind : DiagnosticKind
  message : Text
  deriving DecidableEq, Repr

/-- A reference to a key that is not defined. -/
structure UndefinedKeyIssue where
  context : SourceContext
  key : Text
  deriving DecidableEq, Repr

/-- A file that could not be read. -/
structure ReadIssue where
  file : Text
  error : Text
  deriving DecidableEq, Repr

/-- Something a check finds. -/
inductive Issue where
  | placeholder (issue : PlaceholderIssue)
  | undefinedKey (issue : UndefinedKeyIssue)
  | unreadable (issue : ReadIssue)
  deriving DecidableEq, Repr

namespace Issue

def rule : Issue → Rule
  | placeholder issue => .ofKind issue.kind
  | undefinedKey _ => .undefinedKey
  | unreadable _ => .parseError

def severity : Issue → Severity
  | undefinedKey _ => .warning
  | _ => .error

/-- The place of an issue in source text. -/
def context? : Issue → Option SourceContext
  | placeholder issue => some issue.context
  | undefinedKey issue => some issue.context
  | unreadable _ => none

def file : Issue → Text
  | placeholder issue => issue.context.location.file
  | undefinedKey issue => issue.context.location.file
  | unreadable issue => issue.file

def message : Issue → Text
  | placeholder issue => issue.message
  | undefinedKey issue => issue.key
  | unreadable issue => issue.error

/-- How to mend an issue. -/
def hint? : Issue → Option Text
  | undefinedKey issue => some ("add it with `msgkey add-key ".toList ++ issue.key ++ "`".toList)
  | _ => none

/-- What an issue was checked against. -/
def details? : Issue → Option Text
  | placeholder issue => some (issue.key ++ " = ".toList ++ issue.template)
  | _ => none

def line (issue : Issue) : Nat := (issue.context?.map (·.location.line)).getD 0

def column (issue : Issue) : Nat := (issue.context?.map (·.location.column)).getD 0

/-- The order in which issues are reported. -/
def order (a b : Issue) : Ordering :=
  (compare a.file b.file).then <| (compare a.line b.line).then <|
    (compare a.column b.column).then <| (compare a.rule.rank b.rule.rank).then <|
      compare a.message b.message

end Issue

/-- The order of places: by file, line and column. -/
def Location.order (a b : Location) : Ordering :=
  (compare a.file b.file).then <| (compare a.line b.line).then <| compare a.column b.column

end MessageKeys
