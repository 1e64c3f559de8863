import MessageKeys.Distinct
import MessageKeys.Glob.Walk
import MessageKeys.Issue

/-!
Finding and loading properties files.

The files of a project are those that match one of its globs, taken from the root; they are loaded
in the order of their paths, so that the first definition of a key holds however the globs are
written. A file that cannot be read is noted and passed over.
-/
namespace MessageKeys.Properties

/-- A glob that is no pattern under the root. -/
structure InvalidGlob where
  glob : Text
  cause : GlobError
  deriving DecidableEq, Repr

def InvalidGlob.message (error : InvalidGlob) : Text :=
  "Invalid properties glob: ".toList ++ error.glob

/-- The files that match globs, in the order in which they are found. -/
def matchingFiles (tree : FileTree) (root : Path) : List Text → Except InvalidGlob (List Path)
  | [] => .ok []
  | glob :: more =>
    match Glob.walk tree (Glob.under root glob) with
    | .error cause => .error ⟨glob, cause⟩
    | .ok places =>
      (matchingFiles tree root more).map
        (((places.map (·.path)).filter tree.isFile) ++ ·)

/-- The files that match globs, in the order of paths and each once. -/
def findFiles (tree : FileTree) (root : Path) (globs : List Text) :
    Except InvalidGlob (List Path) :=
  (matchingFiles tree root globs).map fun paths =>
    distinctBy Path.parts [] (paths.mergeSort fun a b => (Path.order a b).isLE)

/-- A properties file that cannot be read. -/
structure UnreadableFile where
  path : Path
  cause : FileError
  deriving DecidableEq, Repr

namespace UnreadableFile

def message (error : UnreadableFile) : Text :=
  "Failed to read properties file: ".toList ++ error.path

/-- The issue that such a file raises; it tells the cause as well. -/
def issue (error : UnreadableFile) : ReadIssue :=
  ⟨error.path, error.message ++ ": ".toList ++ error.cause.message⟩

end UnreadableFile

/-- The definitions of a file. -/
def entriesOf (tree : FileTree) (path : Path) : Except UnreadableFile (List Entry) :=
  match tree.readText path with
  | .error cause => .error ⟨path, cause⟩
  | .ok content => .ok (parse content path)

/-- The messages of several files, and the files that could not be read. -/
structure Loaded where
  catalog : Catalog
  issues : List ReadIssue
  deriving DecidableEq, Repr

/-- Loads one more file. -/
def Loaded.add (tree : FileTree) (loaded : Loaded) (path : Path) : Loaded :=
  match entriesOf tree path with
  | .error error => { loaded with issues := loaded.issues ++ [error.issue] }
  | .ok entries => { loaded with catalog := (loaded.catalog.addFile path).extend entries }

/-- Loads all files that match globs. -/
def load (tree : FileTree) (root : Path) (globs : List Text) : Except InvalidGlob Loaded :=
  (findFiles tree root globs).map fun paths => paths.foldl (Loaded.add tree) ⟨.empty, []⟩

end MessageKeys.Properties
