import MessageKeys.Distinct
import MessageKeys.FileTree
import MessageKeys.Properties.Insertion
import MessageKeys.Report.Style

/-!
Adding several definitions to properties files.

Additions are carried out file by file, in the order of the files' names: a file is read once, all
its additions are made, and it is written once, if any of them changed it. A missing file begins
empty, and the directories that lead to it are made. A failure ends the work and leaves what was
written before.
-/
namespace MessageKeys.Properties

/-- A definition that is to be added to a file. -/
structure Addition where
  file : Path
  key : Text
  value : Text
  deriving DecidableEq, Repr

namespace Addition

/-- The addition without blanks around key and template, unless the key is blank. -/
def trimmed? (addition : Addition) : Option Addition :=
  if Text.trim addition.key = [] then none
  else some ⟨addition.file, Text.trim addition.key, Text.trim addition.value⟩

/-- The line that announces an addition. -/
def preview (addition : Addition) : Styled :=
  .line <| .literal "  " ++ .styled (.colored .green) ['+'] ++
    .plain (' ' :: newLine addition.key addition.value) ++ .literal " " ++
    .styled .justDimmed ('(' :: addition.file ++ [')'])

end Addition

/-- The additions that can be made. -/
def additions (requests : List Addition) : List Addition := requests.filterMap (·.trimmed?)

/-- What was done. -/
structure EditStats where
  /-- Additions that were looked at. -/
  processed : Nat
  /-- Additions of keys that were defined. -/
  skipped : Nat
  /-- Additions that were made. -/
  applied : Nat
  /-- Files that were written. -/
  files : Nat
  deriving DecidableEq, Repr

namespace EditStats

def zero : EditStats := ⟨0, 0, 0, 0⟩

def add (a b : EditStats) : EditStats :=
  ⟨a.processed + b.processed, a.skipped + b.skipped, a.applied + b.applied, a.files + b.files⟩

end EditStats

/-- Why additions fail. -/
inductive EditError where
  | unreadable (path : Path) (cause : FileError)
  | directory (path : Path) (cause : FileError)
  | unwritable (path : Path) (cause : FileError)
  deriving DecidableEq, Repr

namespace EditError

def message : EditError → Text
  | unreadable path _ => "Failed to read file: ".toList ++ path
  | directory path _ => "Failed to create directory: ".toList ++ path
  | unwritable path _ => "Failed to write file: ".toList ++ path

def cause : EditError → FileError
  | unreadable _ cause => cause
  | directory _ cause => cause
  | unwritable _ cause => cause

end EditError

/-- The content of a file that is to be edited. -/
def contentToEdit (tree : FileTree) (path : Path) : Except EditError Text :=
  if tree.pathExists path then
    match tree.readText path with
    | .error cause => .error (.unreadable path cause)
    | .ok content => .ok content
  else .ok []

/-- The tree with the directories that a file lies in, as far as they can be made. -/
def makeRoom (tree : FileTree) (path : Path) : FileTree × Option EditError :=
  match Path.parent? path with
  | none => (tree, none)
  | some above =>
    let (roomy, cause?) := tree.makeDirectory above
    (roomy, cause?.map (.directory above))

/-- Writes a file and the directories that lead to it, which stay if the file cannot be written. -/
def save (tree : FileTree) (path : Path) (content : Text) : FileTree × Option EditError :=
  match makeRoom tree path with
  | (roomy, some error) => (roomy, some error)
  | (roomy, none) =>
    match roomy.write path (.text content) with
    | .error cause => (roomy, some (.unwritable path cause))
    | .ok written => (written, none)

/-- A content after additions, with the number of those that changed it. -/
def insertAll (content : Text) : List Addition → Text × Nat
  | [] => (content, 0)
  | addition :: more =>
    match insert? content addition.key addition.value with
    | none => insertAll content more
    | some changed =>
      let (last, count) := insertAll changed more
      (last, count + 1)

/-- The outcome of additions: the tree they leave, and what was done or why it failed. -/
structure Edited where
  tree : FileTree
  result : Except EditError EditStats

/-- Makes the additions to one file. -/
def editFile (tree : FileTree) (path : Path) (additions : List Addition) : Edited :=
  match contentToEdit tree path with
  | .error error => ⟨tree, .error error⟩
  | .ok content =>
    let (changed, applied) := insertAll content additions
    let skipped := additions.length - applied
    if applied = 0 then ⟨tree, .ok ⟨additions.length, skipped, 0, 0⟩⟩
    else
      match save tree path changed with
      | (left, some error) => ⟨left, .error error⟩
      | (left, none) => ⟨left, .ok ⟨additions.length, skipped, applied, 1⟩⟩

/-- Makes the additions to several files, one file after another. -/
def editFiles (tree : FileTree) (additions : List Addition) : List Path → Edited
  | [] => ⟨tree, .ok .zero⟩
  | path :: more =>
    match editFile tree path (additions.filter (·.file == path)) with
    | ⟨left, .error error⟩ => ⟨left, .error error⟩
    | ⟨left, .ok stats⟩ =>
      let rest := editFiles left additions more
      ⟨rest.tree, rest.result.map stats.add⟩

/-- The files of additions, in order and each once. -/
def targets (additions : List Addition) : List Path :=
  distinct ((additions.map (·.file)).mergeSort Text.le)

/-- Carries out requests for additions. -/
def edit (tree : FileTree) (requests : List Addition) : Edited :=
  editFiles tree (additions requests) (targets (additions requests))

end MessageKeys.Properties
