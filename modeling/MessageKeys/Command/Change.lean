import MessageKeys.Command.Outcome
import MessageKeys.Project.AddKey
import MessageKeys.Report.Layout

/-!
Commands that write files: adding a key, adding all undefined keys, and writing a configuration
file.
-/
namespace MessageKeys.Command

/-- A remark on an error of the user. -/
def errorRemark (text : Text) : Styled := .plain ("Error: ".toList ++ text)

/-- Adds a key. -/
def runAddKey (tree : FileTree) (key value : Text) (file? : Option Path) (options : CommonOptions) :
    Outcome :=
  onProject tree options fun project =>
    let (left, addition) := project.addKey tree key value file?
    let key := Text.trim key
    match addition with
    | .blankKey => .refused left (errorRemark "Message key must not be empty".toList)
    | .definedAt entry =>
      .refused left (errorRemark (key ++ " is already defined at ".toList ++ entry.file ++ ':' ::
        Text.ofNat entry.line))
    | .noTarget => .failed left .noTarget
    | .failed error => .failed left (.edit error)
    | .definedIn file =>
      .refused left (errorRemark (key ++ " is already defined in ".toList ++ file))
    | .added file =>
      .printed left (Report.success ("Added ".toList ++ key ++ " to ".toList ++ file)) .success

/-- Adds undefined keys to a file with empty templates. -/
def applyFix (tree : FileTree) (file : Path) (additions : List Properties.Addition) : Outcome :=
  let edited := Properties.edit tree additions
  match edited.result with
  | .error error => .failed edited.tree (.edit error)
  | .ok stats =>
    .printed edited.tree
      (.line <| .styled (.boldColored .green) "Inserted".toList ++
        .plain (' ' :: Text.ofNat stats.applied ++ " key(s) into ".toList ++ file ++
          " (processed ".toList ++ Text.ofNat stats.processed ++ " key(s)).".toList))
      .success

/-- Shows which keys would be added to a file. -/
def previewFix (tree : FileTree) (file : Path) (additions : List Properties.Addition) : Outcome :=
  .printed tree
    ((Properties.additions additions).flatMap (·.preview) ++
      .line (.styled (.boldColored .yellow) "Would insert".toList ++
        .plain (' ' :: Text.ofNat additions.length ++ " key(s) into ".toList ++ file ++ ['.'])) ++
      .line (.literal "Run with " ++ .styled (.colored .cyan) "--apply".toList ++
        .literal " to insert these keys."))
    .failure

/-- What is done about undefined keys. -/
def fixKeys (project : Project) (tree : FileTree) (keys : List Text) (apply : Bool)
    (file? : Option Path) : Outcome :=
  if keys = [] then .printed tree (Report.success "No undefined message keys".toList) .success
  else
    match file? <|> project.defaultFile? with
    | none => .failed tree .noTarget
    | some file =>
      let additions := keys.map fun key => ⟨file, key, []⟩
      if apply then applyFix tree file additions else previewFix tree file additions

/-- An outcome with a pointer to unreadable files, which determine how a command ends. -/
def withUnreadable (count : Nat) (verbose : Bool) (outcome : Outcome) : Outcome :=
  match outcome.status with
  | .error _ => outcome
  | .ok status =>
    { outcome with
      remarks := outcome.remarks ++ Report.unreadableWarning count verbose
      status := .ok (if 0 < count then .error else status) }

/-- Adds all undefined keys, or shows which they are. -/
def runFix (tree : FileTree) (apply : Bool) (file? : Option Path) (options : CommonOptions) :
    Outcome :=
  onProject tree options fun project =>
    let sources := project.sources tree
    let keys := undefinedKeys (project.undefinedKeyIssues sources)
    .after (Note.shown options.verbose (sources.unreadable.map (·.note))) <|
      withUnreadable (project.readIssues sources).length options.verbose <|
        fixKeys project tree keys apply file?

/-- Writes a configuration file with the defaults. -/
def runInit (tree : FileTree) : Outcome :=
  if tree.pathExists Config.fileName then
    .refused tree (errorRemark (Config.fileName ++ " already exists".toList))
  else
    match tree.write Config.fileName (.text (Config.defaultText ++ ['\n'])) with
    | .error error => .failed tree (.writing error)
    | .ok written =>
      .printed written (Report.success ("Created ".toList ++ Config.fileName)) .success

end MessageKeys.Command
