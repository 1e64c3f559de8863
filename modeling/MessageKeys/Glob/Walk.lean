import MessageKeys.FileTree
import MessageKeys.Glob.Pattern

/-!
Paths that match a glob.

A glob is matched component by component against the names in a tree. A component without wildcards
is joined to the path if such a name exists; one with wildcards is matched against the names in the
directory; `**` stands for all that lies below the directory, and at the end of a glob for
directories only. Found paths begin the way the glob begins, but a leading dot leaves no trace.

A walk starts in the directory of the tree. The root is not in the tree, and an absolute glob finds
nothing.
-/
namespace MessageKeys.Glob

/-- A name joined to a path that a walk has come to; a path that means the current directory is left
out. -/
def extend (path : Path) (name : Text) : Path :=
  if Path.parts path = [.current] then name else Path.join path name

/-- Several names joined one after another. -/
def extendAll (path : Path) (names : Route) : Path := names.foldl extend path

/-- A place that a walk has come to. -/
structure Place where
  path : Path
  node : Node
  deriving DecidableEq, Repr

/-- What lies below a place, at any depth. -/
def descendants (tree : FileTree) (place : Place) : List (Text × Place) :=
  if !place.node.isDirectory then []
  else
    match tree.resolve place.path with
    | .error _ => []
    | .ok route => (tree.below route).filterMap fun (names, node) =>
        names.getLast?.map fun name => (name, ⟨extendAll place.path names, node⟩)

/-- What lies in a place. -/
def children (tree : FileTree) (place : Place) : List (Text × Place) :=
  if !place.node.isDirectory then []
  else
    match tree.resolve place.path with
    | .error _ => []
    | .ok route => (tree.below route).filterMap fun (names, node) =>
        match names with
        | [name] => some (name, ⟨extend place.path name, node⟩)
        | _ => none

/-- The place that a name without wildcards leads to. -/
def step? (tree : FileTree) (place : Place) (name : Text) : Option Place :=
  let path := extend place.path name
  if name = ['.'] ∨ name = ['.', '.'] then
    if place.node.isDirectory then some ⟨path, (tree.node? path).getD .directory⟩ else none
  else (tree.node? path).map fun node => ⟨path, node⟩

/-- The entries for the directory itself and its parent, which only a pattern that begins with a dot
matches. -/
def dotEntries (tree : FileTree) (place : Place) (pattern : GlobPattern) : List Place :=
  if place.node.isDirectory ∧ pattern.tokens.head? = some (.literal '.') then
    ([['.'], ['.', '.']].filter pattern.accepts).map fun name =>
      let path := Path.join place.path name
      ⟨path, (tree.node? path).getD .directory⟩
  else []

/-- The places that the components of a glob lead to. -/
def expand (tree : FileTree) : List GlobPattern → Place → List Place
  | [], place => [place]
  | pattern :: more, place =>
    match pattern.literal? with
    | some name =>
      match step? tree place name with
      | some next => expand tree more next
      | none => []
    | none =>
      if pattern.isRecursive then
        match more with
        | [] => ((descendants tree place).map (·.2)).filter (·.node.isDirectory)
        | next :: rest =>
          if next.isRecursive then expand tree (next :: rest) place
          else
            (descendants tree place).flatMap fun (name, found) =>
              if next.accepts name then expand tree rest found else []
      else
        (children tree place).flatMap (fun (name, found) =>
          if pattern.accepts name then expand tree more found else []) ++
        (dotEntries tree place pattern).flatMap (expand tree more)

/-- The components of a glob: the texts between slashes, without an empty last one. -/
def components (glob : Text) : List Text :=
  let texts := List.splitOn '/' glob
  if texts.getLast? = some [] then texts.dropLast else texts

/-- The patterns of several texts. -/
def patterns : List Text → Except GlobError (List GlobPattern)
  | [] => .ok []
  | text :: more =>
    match GlobPattern.ofText text with
    | .error error => .error error
    | .ok pattern => (patterns more).map (pattern :: ·)

/-- The places that match a glob. The glob has to be a pattern as a whole, and so has each of its
components; one that ends in a slash matches directories only, and nothing is found outside the
tree. -/
def walk (tree : FileTree) (glob : Text) : Except GlobError (List Place) := do
  let _ ← GlobPattern.ofText glob
  let steps ← patterns (components glob)
  if Path.isAbsolute glob ∨ glob = [] then return []
  let found := expand tree steps ⟨['.'], .directory⟩
  return if glob.getLast? = some '/' then found.filter (·.node.isDirectory) else found

/-- A glob that is taken from a directory. -/
def under (root glob : Text) : Text :=
  ((GlobPattern.escape root).reverse.dropWhile (· == '/')).reverse ++ '/' :: glob

end MessageKeys.Glob
