import MessageKeys.Distinct
import MessageKeys.Issue
import MessageKeys.Report.Style
import MessageKeys.Source.Position

/-!
Finding issues in source files.

Every source file is checked on its own against the catalog; the issues of all files are then sorted
by place. A key that several patterns find at one place counts once.
-/
namespace MessageKeys

open Call

/-- A source file. -/
structure SourceFile where
  path : Text
  text : Text
  deriving DecidableEq, Repr

/-- The issue of a diagnostic at a call site. -/
def PlaceholderIssue.ofDiagnostic (index : LineIndex) (file : Text) (site : Site) (template : Text)
    (diagnostic : Diagnostic) : PlaceholderIssue :=
  { context := index.contextAt file diagnostic.span.start
    key := site.key
    template
    kind := diagnostic.kind
    message := diagnostic.message }

/-- The placeholder issues of one file, in the order of its call sites. -/
def SourceFile.placeholderIssues (file : SourceFile) (methods : List MethodName)
    (catalog : Catalog) :
    List PlaceholderIssue :=
  let index := LineIndex.ofText file.text
  (sites file.text methods).flatMap fun site =>
    match catalog.get? site.key with
    | none => []
    | some entry =>
      (Diagnostic.ofSite site entry.value).map
        (PlaceholderIssue.ofDiagnostic index file.path site entry.value)

/-- The order of placeholder issues: by place, then by rule. -/
def PlaceholderIssue.order (a b : PlaceholderIssue) : Ordering :=
  (a.context.location.order b.context.location).then <|
    compare (Rule.ofKind a.kind).rank (Rule.ofKind b.kind).rank

/-- The placeholder issues of all files. -/
def placeholderIssues (sources : List SourceFile) (methods : List MethodName) (catalog : Catalog) :
    List PlaceholderIssue :=
  (sources.flatMap (·.placeholderIssues methods catalog)).mergeSort fun a b => (a.order b).isLE

/-- A call whose parentheses are never closed. -/
structure UnbalancedCall where
  location : Location
  /-- The call up to its opening parenthesis. -/
  written : Text
  deriving DecidableEq, Repr

/-- The line that points out an unbalanced call. -/
def UnbalancedCall.line (call : UnbalancedCall) : Styled :=
  .line <| .styled (.boldColored .yellow) "warning:".toList ++
    .plain (' ' :: call.location.toText) ++ .literal ": unbalanced parentheses in `" ++
    .plain call.written ++ .literal "` call"

/-- The calls of one file that are never closed. -/
def SourceFile.unbalancedCalls (file : SourceFile) (methods : List MethodName) :
    List UnbalancedCall :=
  let index := LineIndex.ofText file.text
  ((sites file.text methods).filter fun site => !site.list.balanced).map fun site =>
    let (line, column) := index.lineColumn site.invocation.start
    ⟨⟨file.path, line, column⟩, site.invocation.written⟩

/-- The undefined keys that one file refers to, each place once. -/
def SourceFile.undefinedKeyIssues (file : SourceFile) (references : Matcher) (catalog : Catalog) :
    List UndefinedKeyIssue :=
  let index := LineIndex.ofText file.text
  let undefined := (references.references file.text).filter fun reference =>
    !catalog.contains reference.key
  (distinctBy Reference.span [] undefined).map fun reference =>
    ⟨index.contextAt file.path reference.span.start, reference.key⟩

/-- The undefined keys that all files refer to, sorted by place. -/
def undefinedKeyIssues (sources : List SourceFile) (references : Matcher) (catalog : Catalog) :
    List UndefinedKeyIssue :=
  (sources.flatMap (·.undefinedKeyIssues references catalog)).mergeSort fun a b =>
    (a.context.location.order b.context.location).isLE

/-- The distinct keys of issues, in the order in which they first occur. -/
def undefinedKeys (issues : List UndefinedKeyIssue) : List Text :=
  distinct (issues.map (·.key))

end MessageKeys
