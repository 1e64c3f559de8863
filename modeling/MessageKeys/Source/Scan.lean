import MessageKeys.Distinct
import MessageKeys.Glob.Walk
import MessageKeys.Report.Style

/-!
Finding the source files of a project.

A scan starts at a base directory, or at the directories that are included, and takes every source
file below them. Files in ignored directories and files whose path from the base matches an ignored
glob are left out. An include or ignore without wildcards is a path from the base. What is wrong
with a pattern or a starting point is noted and ends nothing.
-/
namespace MessageKeys

/-- What a scan takes and leaves out. -/
structure ScanOptions where
  includes : List Text
  ignores : List Text
  /-- Whether directories of build output and the like are passed over. -/
  ignoreBuildDirs : Bool
  deriving DecidableEq, Repr

/-- What a scan passes over. -/
inductive ScanWarning where
  | ignorePattern (pattern : Text) (error : GlobError)
  | includePattern (pattern : Text) (error : GlobError)
  | missingInclude (path : Path)
  | inaccessible (path : Path) (error : FileError)
  deriving DecidableEq, Repr

namespace ScanWarning

def message : ScanWarning → Text
  | ignorePattern pattern error =>
    "Invalid ignore pattern '".toList ++ pattern ++ "': ".toList ++ error.message
  | includePattern pattern error =>
    "Invalid glob pattern '".toList ++ pattern ++ "': ".toList ++ error.message
  | missingInclude path => "Include path does not exist: ".toList ++ path
  | inaccessible path error =>
    "Cannot access path: IO error for operation on ".toList ++ path ++ ": ".toList ++ error.message

/-- The line that shows a warning. -/
def line (warning : ScanWarning) : Styled :=
  .line (.styled (.boldColored .yellow) "warning:".toList ++ .plain (' ' :: warning.message))

/-- Whether a starting point could not be entered. -/
def isInaccessible : ScanWarning → Bool
  | inaccessible _ _ => true
  | _ => false

end ScanWarning

namespace Scan

/-- Directories of build output, dependencies, version control and tests. -/
def buildDirectories : List Text :=
  ["**/.git/**".toList, "**/node_modules/**".toList, "**/target/**".toList, "**/build/**".toList,
    "**/out/**".toList, "**/dist/**".toList, "**/tmp/**".toList, "**/temp/**".toList,
    "**/src/test/**".toList, "**/src/generated/**".toList]

/-- What is left out: directories, and patterns for paths from the base. -/
structure Exclusion where
  directories : List Path
  patterns : List GlobPattern
  deriving DecidableEq, Repr

/-- The patterns of those texts that are patterns. -/
def patternsOf (texts : List Text) : List GlobPattern :=
  texts.filterMap fun text => (GlobPattern.ofText text).toOption

/-- What the options leave out. -/
def exclusion (base : Path) (options : ScanOptions) : Exclusion where
  directories :=
    (options.ignores.filter fun text => !GlobPattern.hasWildcard text).map (Path.join base)
  patterns := patternsOf (options.ignores.filter GlobPattern.hasWildcard) ++
    if options.ignoreBuildDirs then patternsOf buildDirectories else []

/-- Whether a path is left out. -/
def Exclusion.covers (exclusion : Exclusion) (base path : Path) : Bool :=
  exclusion.directories.any (Path.liesIn · path) ||
    exclusion.patterns.any (·.accepts ((Path.relativeTo? base path).getD path))

/-- The warnings about ignored texts that are no patterns. -/
def ignoreWarnings (ignores : List Text) : List ScanWarning :=
  (ignores.filter GlobPattern.hasWildcard).filterMap fun text =>
    match GlobPattern.ofText text with
    | .error error => some (.ignorePattern text error)
    | .ok _ => none

/-- Where an include leads, or what is wrong with it. -/
def startsOf (tree : FileTree) (base : Path) (text : Text) : Except ScanWarning (List Path) :=
  if GlobPattern.hasWildcard text then
    match Glob.walk tree (Glob.under base text) with
    | .error error => .error (.includePattern text error)
    | .ok places => .ok ((places.filter (·.node.isDirectory)).map (·.path))
  else if tree.pathExists (Path.join base text) then .ok [Path.join base text]
  else .error (.missingInclude (Path.join base text))

/-- A path and all that lies below it. -/
def reach (tree : FileTree) (start : Path) : Except ScanWarning (List (Path × Node)) :=
  match tree.resolve start with
  | .error error => .error (.inaccessible start error)
  | .ok route =>
    let here := (tree.at? route).map fun node => (start, node)
    let inside := (tree.below route).map fun (names, node) => (names.foldl Path.join start, node)
    .ok (here.toList ++ inside)

/-- The successful results, one after another. -/
def successes {α : Type} (results : List (Except ScanWarning (List α))) : List α :=
  results.flatMap fun result => result.toOption.getD []

/-- The warnings among results. -/
def failures {α : Type} (results : List (Except ScanWarning α)) : List ScanWarning :=
  results.filterMap fun result =>
    match result with
    | .error warning => some warning
    | .ok _ => none

/-- Whether a path is that of a source file. -/
def isSource (path : Path) : Bool := Path.extension? path == some "java".toList

end Scan

/-- The source files that a scan finds, in order and each once, and what it passes over. -/
structure Scan where
  files : List Path
  warnings : List ScanWarning
  deriving DecidableEq, Repr

namespace Scan

/-- Number of starting points that could not be entered. -/
def skipped (scan : Scan) : Nat := scan.warnings.countP (·.isInaccessible)

/-- Scans a base directory. -/
def run (tree : FileTree) (base : Path) (options : ScanOptions) : Scan :=
  let starts := options.includes.map (startsOf tree base)
  let reached := (if options.includes = [] then [base] else successes starts).map (reach tree)
  let exclusion := exclusion base options
  let found := (successes reached).filterMap fun (path, node) =>
    if !node.isDirectory && isSource path && !exclusion.covers base path then some path else none
  { files := distinct (found.mergeSort Text.le)
    warnings := ignoreWarnings options.ignores ++ failures starts ++ failures reached }

end Scan

end MessageKeys
