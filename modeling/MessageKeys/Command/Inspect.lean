import MessageKeys.Command.Outcome
import MessageKeys.Report.Layout

/-!
Commands that look at a project and change nothing: checking it, looking up a key, and listing keys.
-/
namespace MessageKeys.Command

/-- Checks a project and reports what is wrong. -/
def runCheck (tree : FileTree) (checks : List Check) (options : CommonOptions) : Outcome :=
  onProject tree options fun project =>
    let sources := project.sources tree
    let result := project.check sources checks
    { tree
      output :=
        if result.issues = [] then Report.clean result.sourceFiles result.propertiesFiles
        else Report.ofIssues result.issues
      remarks := Note.shown options.verbose (project.checkNotes sources checks) ++
        Report.unreadableWarning result.unreadable options.verbose
      status := .ok (if 0 < result.errors then .failure else .success) }

/-- A remark that something was not found. -/
def notFound (text : Text) : Styled :=
  .styled (.boldColored .red) "error:".toList ++ .plain (' ' :: text)

/-- The key that stands at a place in a source file. -/
def keyAt (tree : FileTree) (references : Matcher) (place : Text) :
    Except CommandError (Option Text) :=
  match Location.ofText place with
  | .error error => .error (.position error)
  | .ok location =>
    match tree.readText location.file with
    | .error cause => .error (.unreadable location.file cause)
    | .ok source =>
      let offset? := (LineIndex.ofText source).offsetOf? location.line location.column
      .ok ((offset?.bind (references.referenceAt? source)).map (·.key))

/-- Shows the definition of a key. -/
def showKey (tree : FileTree) (catalog : Catalog) (key : Text) : Outcome :=
  match catalog.get? key with
  | some entry => .printed tree (Report.entry entry) .success
  | none => .refused tree (notFound ("Message key not found: ".toList ++ key))

/-- Looks up a key. -/
def runLookUp (tree : FileTree) (sought : Sought) (options : CommonOptions) : Outcome :=
  onProject tree options fun project =>
    match sought with
    | .key key => showKey tree project.catalog key
    | .place place =>
      match keyAt tree project.references place with
      | .error error => .failed tree error
      | .ok none => .refused tree (notFound ("No message key at ".toList ++ place))
      | .ok (some key) => showKey tree project.catalog key

/-- Lists the keys that hold a text. -/
def runKeys (tree : FileTree) (filter? : Option Text) (options : CommonOptions) : Outcome :=
  onProject tree options fun project =>
    let entries := project.catalog.search (filter?.getD [])
    if entries = [] then ⟨tree, [], .line (.literal "No message keys found"), .ok .success⟩
    else
      { tree
        output := entries.flatMap fun entry =>
          Styled.line (.plain (entry.key ++ [' ']) ++ .styled .justDimmed entry.value)
        remarks := .line <| .plain <| Text.ofNat entries.length ++ " key(s) in ".toList ++
          Text.ofNat project.catalog.files.length ++ " properties file(s)".toList
        status := .ok .success }

end MessageKeys.Command
