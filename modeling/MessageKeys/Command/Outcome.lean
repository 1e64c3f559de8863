import MessageKeys.CommandLine.Basic
import MessageKeys.Properties.Edit

/-!
What a command leaves behind: the files, what it prints, and how it ends.
-/
namespace MessageKeys

/-- How a command ends that could do its work. -/
inductive ExitStatus where
  /-- Nothing to report. -/
  | success
  /-- Errors were found, or something is left to do. -/
  | failure
  /-- Some input could not be read. -/
  | error
  deriving DecidableEq, Repr

def ExitStatus.code : ExitStatus → Nat
  | success => 0
  | failure => 1
  | error => 2

/-- Why a command could not do its work. -/
inductive CommandError where
  | project (error : ProjectError)
  | position (error : PositionError)
  | unreadable (file : Path) (cause : FileError)
  /-- There is no file to write new keys to. -/
  | noTarget
  | edit (error : Properties.EditError)
  | writing (error : FileError)
  /-- Serving is not a command that runs and ends. -/
  | serving
  deriving DecidableEq, Repr

namespace CommandError

def message : CommandError → Text
  | project error => error.message
  | position error => error.message
  | unreadable file _ => "Failed to read file: ".toList ++ file
  | noTarget => "No properties file found (use --file to choose one)".toList
  | edit error => error.message
  | writing error => error.message
  | serving => "Serve command should be handled before run()".toList

/-- What lies behind an error, where that can be told. -/
def cause? : CommandError → Option Text
  | project error => error.cause?
  | unreadable _ cause => some cause.message
  | edit error => some error.cause.message
  | _ => none

/-- An error with its cause, behind it or, in a detailed message, on lines of its own. -/
def fullMessage (verbose : Bool) (error : CommandError) : Text :=
  let between := if verbose then "\n\nCaused by:\n    ".toList else ": ".toList
  Text.join between (error.message :: error.cause?.toList)

end CommandError

/-- What a command leaves behind. -/
structure Outcome where
  tree : FileTree
  /-- What it prints. -/
  output : Styled
  /-- What it remarks besides. -/
  remarks : Styled
  status : Except CommandError ExitStatus

namespace Outcome

/-- An outcome without output. -/
def failed (tree : FileTree) (error : CommandError) : Outcome := ⟨tree, [], [], .error error⟩

/-- An outcome with output only. -/
def printed (tree : FileTree) (output : Styled) (status : ExitStatus) : Outcome :=
  ⟨tree, output, [], .ok status⟩

/-- A refusal with a remark. -/
def refused (tree : FileTree) (remark : Styled) : Outcome :=
  ⟨tree, [], .line remark, .ok .failure⟩

/-- An outcome with remarks in front of its own. -/
def after (remarks : Styled) (outcome : Outcome) : Outcome :=
  { outcome with remarks := remarks ++ outcome.remarks }

end Outcome

/-- Opens the project that options choose and goes on with it. -/
def onProject (tree : FileTree) (options : CommonOptions) (act : Project → Outcome) : Outcome :=
  let opening := Project.load tree options.choice
  .after (Note.shown options.verbose opening.notes) <|
    match opening.project with
    | .error error => .failed tree (.project error)
    | .ok project => act project

end MessageKeys
