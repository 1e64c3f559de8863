import MessageKeys.Project.Basic
import MessageKeys.Report.Result

/-!
Checking a project.

A check reads the source files, runs the rules that were asked for, each as often as it was asked
for, and adds an issue for every file that could not be read.
-/
namespace MessageKeys

/-- A check that can be asked for. -/
inductive Check where
  | placeholder
  | undefinedKey
  deriving DecidableEq, Repr

namespace Check

def name : Check → Text
  | placeholder => "placeholder".toList
  | undefinedKey => "undefined-key".toList

/-- All checks, in the order in which they run by default. -/
def all : List Check := [placeholder, undefinedKey]

def ofName? (text : Text) : Option Check := all.find? fun check => check.name == text

end Check

/-- A source file that cannot be read. -/
structure UnreadableSource where
  path : Path
  cause : FileError
  deriving DecidableEq, Repr

namespace UnreadableSource

def issue (source : UnreadableSource) : ReadIssue :=
  ⟨source.path, "Failed to read file: ".toList ++ source.cause.message⟩

def note (source : UnreadableSource) : Note := .unreadable source.path source.cause.message

end UnreadableSource

/-- The source files of a project as far as they can be read. -/
structure Sources where
  readable : List SourceFile
  unreadable : List UnreadableSource
  deriving DecidableEq, Repr

/-- Reads source files. -/
def Sources.read (tree : FileTree) (paths : List Path) : Sources where
  readable := paths.filterMap fun path => (tree.readText path).toOption.map (⟨path, ·⟩)
  unreadable := paths.filterMap fun path =>
    match tree.readText path with
    | .error cause => some ⟨path, cause⟩
    | .ok _ => none

namespace Project

/-- The sources of a project. -/
def sources (project : Project) (tree : FileTree) : Sources := .read tree project.files

/-- The calls of a project that do not fit their templates. -/
def placeholderIssues (project : Project) (sources : Sources) : List PlaceholderIssue :=
  MessageKeys.placeholderIssues sources.readable project.methods project.catalog

/-- The references of a project to keys that are not defined. -/
def undefinedKeyIssues (project : Project) (sources : Sources) : List UndefinedKeyIssue :=
  MessageKeys.undefinedKeyIssues sources.readable project.references project.catalog

/-- What one check finds. -/
def issuesOf (project : Project) (sources : Sources) : Check → List Issue
  | .placeholder => (project.placeholderIssues sources).map .placeholder
  | .undefinedKey => (project.undefinedKeyIssues sources).map .undefinedKey

/-- The files that could not be read, sources first. -/
def readIssues (project : Project) (sources : Sources) : List ReadIssue :=
  sources.unreadable.map (·.issue) ++ project.propertiesIssues

/-- The checks that a request stands for: all of them if it names none. -/
def requested (checks : List Check) : List Check := if checks = [] then Check.all else checks

/-- Runs checks. -/
def check (project : Project) (sources : Sources) (checks : List Check) : CheckResult :=
  .ofIssues
    ((requested checks).flatMap (project.issuesOf sources) ++
      (project.readIssues sources).map .unreadable)
    project.files.length project.catalog.files.length

/-- The notes of one check. -/
def notesOf (project : Project) (sources : Sources) : Check → List Note
  | .placeholder =>
    (sources.readable.flatMap (·.unbalancedCalls project.methods)).map .unbalanced
  | .undefinedKey => []

/-- The notes of checks. -/
def checkNotes (project : Project) (sources : Sources) (checks : List Check) : List Note :=
  sources.unreadable.map (·.note) ++ (requested checks).flatMap (project.notesOf sources)

end Project

end MessageKeys
