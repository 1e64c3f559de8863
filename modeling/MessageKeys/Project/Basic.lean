import MessageKeys.Config.Load
import MessageKeys.Project.Note
import MessageKeys.Properties.Load
import MessageKeys.Reference.Automaton

/-!
Projects.

A project is what a configuration describes under a root directory: its source files, the messages
of its properties files, and the methods and annotations that refer to keys. Methods and globs that
a user gives take the place of the configured ones. Opening a project either succeeds or fails with
the first thing that is wrong, and leaves notes in both cases.
-/
namespace MessageKeys

/-- Where a project is and what takes the place of its configuration. -/
structure ProjectChoice where
  root : Path
  /-- Methods in place of the configured ones, if there are any. -/
  methods : List Text
  /-- Globs in place of the configured ones, if there are any. -/
  propertyFileGlobs : List Text
  deriving DecidableEq, Repr

/-- The project in a directory, as configured. -/
def ProjectChoice.ofRoot (root : Path) : ProjectChoice := ⟨root, [], []⟩

/-- The configuration after a user's choice. -/
def ProjectChoice.override (choice : ProjectChoice) (config : Config) : Config :=
  { config with
    methods := if choice.methods = [] then config.methods else choice.methods
    propertyFileGlobs :=
      if choice.propertyFileGlobs = [] then config.propertyFileGlobs else choice.propertyFileGlobs }

/-- Why a project cannot be opened. -/
inductive ProjectError where
  | config (error : Config.LoadError)
  | glob (error : Properties.InvalidGlob)
  | pattern (error : InvalidPattern)
  deriving DecidableEq, Repr

namespace ProjectError

def message : ProjectError → Text
  | config error => error.message
  | glob error => error.message
  | pattern error => error.message

/-- What lies behind an error, where that can be told. -/
def cause? : ProjectError → Option Text
  | config error => error.cause?
  | glob error => some error.cause.message
  | pattern error => error.cause?

/-- An error with its cause. -/
def fullMessage (error : ProjectError) : Text :=
  Text.join ": ".toList (error.message :: error.cause?.toList)

end ProjectError

/-- An opened project. -/
structure Project where
  config : Config
  root : Path
  /-- The source files, in order. -/
  files : List Path
  catalog : Catalog
  /-- The properties files that could not be read. -/
  propertiesIssues : List ReadIssue
  /-- The methods whose calls are checked. -/
  methods : List Call.MethodName
  /-- What refers to keys. -/
  references : Matcher
  deriving DecidableEq, Repr

/-- The outcome of opening a project. -/
structure Opening where
  notes : List Note
  project : Except ProjectError Project

namespace Project

/-- A configured path from the root; one that leads nowhere else is the root as it is written. -/
def pathUnder (root : Path) (path : Path) : Path :=
  if Path.isAbsolute path then path
  else if Path.withoutCurrent path = [] then root
  else Path.join root (Path.withoutCurrent path)

/-- The scan that a configuration describes. -/
def scan (tree : FileTree) (root : Path) (config : Config) : Scan :=
  Scan.run tree (pathUnder root config.sourceRoot)
    ⟨config.includes, config.ignores, config.ignoreBuildDirs⟩

/-- The notes on a scan. -/
def scanNotes (scan : Scan) : List Note :=
  scan.warnings.map .scan ++ if 0 < scan.skipped then [.skipped scan.skipped] else []

/-- Puts a project together from a valid configuration. -/
def assemble (tree : FileTree) (root : Path) (config : Config) : Opening :=
  let scan := scan tree root config
  let notes := (if config.methods = [] then [.noMethods] else []) ++ scanNotes scan
  match Properties.load tree root config.propertyFileGlobs with
  | .error error => ⟨notes, .error (.glob error)⟩
  | .ok loaded =>
    let notes := notes ++ loaded.issues.map fun issue => .unreadable issue.file issue.error
    match Matcher.ofPatterns config.methods config.annotations with
    | .error error => ⟨notes, .error (.pattern error)⟩
    | .ok references =>
      ⟨notes, .ok
        { config, root, references
          files := scan.files
          catalog := loaded.catalog
          propertiesIssues := loaded.issues
          methods := Call.MethodName.ofTexts config.methods }⟩

/-- Opens a project. -/
def load (tree : FileTree) (choice : ProjectChoice) : Opening :=
  match Config.load tree choice.root with
  | .error error => ⟨[], .error (.config error)⟩
  | .ok loaded =>
    let notes := if loaded.fromFile then [] else [.noConfig Config.fileName]
    let config := choice.override loaded.config
    match config.validate with
    | .error fault => ⟨notes, .error (.config (.invalid fault))⟩
    | .ok () =>
      let opening := assemble tree choice.root config
      ⟨notes ++ opening.notes, opening.project⟩

/-- The properties file that new keys go to. -/
def defaultFile? (project : Project) : Option Path := project.catalog.files.head?

end Project

end MessageKeys
