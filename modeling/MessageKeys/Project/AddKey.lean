import MessageKeys.Project.Basic
import MessageKeys.Properties.Edit

/-!
Adding one key to a project.

A key is added to a chosen file, or else to the project's first properties file. It must not be
blank, and neither the project nor the file may define it.
-/
namespace MessageKeys

/-- How the addition of a key ends. -/
inductive KeyAddition where
  | blankKey
  | definedAt (entry : Entry)
  | noTarget
  | failed (error : Properties.EditError)
  | definedIn (file : Path)
  | added (file : Path)
  deriving DecidableEq, Repr

namespace Project

/-- Adds a key to a file. -/
def addKeyTo (tree : FileTree) (file : Path) (key value : Text) : FileTree × KeyAddition :=
  let edited := Properties.edit tree [⟨file, key, value⟩]
  match edited.result with
  | .error error => (edited.tree, .failed error)
  | .ok stats => (edited.tree, if stats.applied = 0 then .definedIn file else .added file)

/-- Adds a key to a project; blanks around it do not belong to it. -/
def addKey (project : Project) (tree : FileTree) (key value : Text) (file? : Option Path) :
    FileTree × KeyAddition :=
  if Text.trim key = [] then (tree, .blankKey)
  else
    match project.catalog.get? (Text.trim key) with
    | some entry => (tree, .definedAt entry)
    | none =>
      match file? <|> project.defaultFile? with
      | none => (tree, .noTarget)
      | some file => addKeyTo tree file (Text.trim key) value

end Project

end MessageKeys
