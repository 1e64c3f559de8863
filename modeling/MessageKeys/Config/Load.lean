import MessageKeys.Config.Basic
import MessageKeys.FileTree
import MessageKeys.Text.Quoted

/-!
Finding and loading the configuration file.

The file is looked for in a directory and then in those it lies in, as far as its path tells; a
directory with version control data ends the search. Without a file the defaults hold.
-/
namespace MessageKeys.Config

def fileName : Text := ".msgkeyrc.json".toList

/-- The directory that marks the root of a repository. -/
def repositoryMark : Text := ".git".toList

/-- A path and the paths above it; `fuel` bounds their number. -/
def ancestorsFrom : Nat → Path → List Path
  | 0, _ => []
  | fuel + 1, path =>
    path :: match Path.parent? path with
      | some above => ancestorsFrom fuel above
      | none => []

/-- A path and the paths above it, nearest first. -/
def ancestors (path : Path) : List Path := ancestorsFrom (path.length + 1) path

/-- The configuration file in the first of some directories that has one, if no repository begins
before. -/
def nearest? (tree : FileTree) : List Path → Option Path
  | [] => none
  | directory :: more =>
    if tree.pathExists (Path.join directory fileName) then some (Path.join directory fileName)
    else if tree.pathExists (Path.join directory repositoryMark) then none
    else nearest? tree more

/-- The configuration file that holds for a directory. -/
def find? (tree : FileTree) (start : Path) : Option Path := nearest? tree (ancestors start)

/-- A configuration and whether it comes from a file. -/
structure Loaded where
  config : Config
  fromFile : Bool
  deriving DecidableEq, Repr

/-- Why a configuration cannot be loaded. -/
inductive LoadError where
  | unreadable (path : Path) (cause : FileError)
  | malformed (path : Path)
  | invalid (fault : Fault)
  deriving DecidableEq, Repr

namespace LoadError

def message : LoadError → Text
  | unreadable path _ => "Failed to read config file: ".toList ++ Text.quoted path
  | malformed path => "Failed to parse config file: ".toList ++ Text.quoted path
  | invalid fault => fault.message

def cause? : LoadError → Option Text
  | unreadable _ cause => some cause.message
  | malformed _ => none
  | invalid fault => fault.cause?

end LoadError

/-- Reads and checks a configuration file. -/
def ofFile (tree : FileTree) (path : Path) : Except LoadError Config :=
  match tree.readText path with
  | .error cause => .error (.unreadable path cause)
  | .ok content =>
    match ofText? content with
    | none => .error (.malformed path)
    | some config =>
      match config.validate with
      | .error fault => .error (.invalid fault)
      | .ok () => .ok config

/-- The configuration that holds for a directory. -/
def load (tree : FileTree) (start : Path) : Except LoadError Loaded :=
  match find? tree start with
  | none => .ok ⟨default, false⟩
  | some path => (ofFile tree path).map (⟨·, true⟩)

end MessageKeys.Config
