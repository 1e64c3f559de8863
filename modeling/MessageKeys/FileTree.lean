import MessageKeys.Path
import MessageKeys.Text.Utf8

/-!
A tree of files.

The tree is the directory that a program runs in, with all that is below it. Every file and
directory is listed with its route, the names that lead to it; the empty route is the directory
itself. Paths are followed part by part as an operating system does it: each part but the last has
to be a directory, and no part may hold a NUL character or be longer than a name may be. A route
that leads upwards begins with pairs of dots. The directories above the tree exist, and nothing more
is known of them than what has been written there.

Where the tree itself lies is not known either, so an absolute path names nothing in it: to look for
one fails as for a missing file, and a file with such a path is not written.
-/
namespace MessageKeys

/-- What a file holds: a text, or bytes that encode none. -/
inductive Content where
  | text (text : Text)
  | binary (bytes : List UInt8)
  deriving DecidableEq, Repr

/-- The content that bytes make. -/
def Content.ofBytes (bytes : List UInt8) : Content :=
  match Text.decode? bytes with
  | some decoded => .text decoded
  | none => .binary bytes

/-- A file or a directory. -/
inductive Node where
  | directory
  | file (content : Content)
  deriving DecidableEq, Repr

def Node.isDirectory : Node → Bool
  | directory => true
  | file _ => false

/-- Why a file operation fails. -/
inductive FileError where
  | notFound
  | notDirectory
  | isDirectory
  | notText
  | nulInName
  | nameTooLong
  deriving DecidableEq, Repr

def FileError.message : FileError → Text
  | notFound => "No such file or directory (os error 2)".toList
  | notDirectory => "Not a directory (os error 20)".toList
  | isDirectory => "Is a directory (os error 21)".toList
  | notText => "stream did not contain valid UTF-8".toList
  | nulInName => "file name contained an unexpected NUL byte".toList
  | nameTooLong => "File name too long (os error 36)".toList

/-- The bytes that a name may have. -/
def nameLimit : Nat := 255

/-- The bytes that a path may have. -/
def pathLimit : Nat := 4095

/-- The names that lead to a file. -/
abbrev Route := List Text

/-- The way from a directory to the one that it lies in. -/
def upwards : Text := ['.', '.']

namespace Route

/-- Whether a route leads to the directory itself or to one above it. -/
def isAbove (route : Route) : Bool := route.all (· == upwards)

/-- The route of the directory that a directory lies in. -/
def above (route : Route) : Route :=
  if isAbove route then route ++ [upwards] else route.dropLast

/-- Whether a route leads out of the directory. -/
def isOutside (route : Route) : Bool := route.head? == some upwards

end Route

/-- Files and directories with their routes. -/
structure FileTree where
  entries : List (Route × Node)
  deriving DecidableEq, Repr

namespace FileTree

def empty : FileTree := ⟨[]⟩

/-- What stands at a route. -/
def at? (tree : FileTree) (route : Route) : Option Node :=
  if Route.isAbove route then some .directory else tree.entries.lookup route

/-- Follows the pieces of a path from a route. -/
def follow (tree : FileTree) (route : Route) : List Text → Except FileError Route
  | [] => .ok route
  | piece :: rest =>
    match tree.at? route with
    | none => .error .notFound
    | some (.file _) => .error .notDirectory
    | some .directory =>
      if Path.isSilent piece then tree.follow route rest
      else if piece = upwards then tree.follow (Route.above route) rest
      else if nameLimit < Text.size piece then .error .nameTooLong
      else
        match tree.at? (route ++ [piece]) with
        | none => .error .notFound
        | some _ => tree.follow (route ++ [piece]) rest

/-- Refuses a path that names nothing in the tree, whatever it holds: among others every absolute
path. -/
def checkPath (path : Path) : Except FileError Unit :=
  if path.any (·.toNat == 0) then .error .nulInName
  else if pathLimit < Text.size path then .error .nameTooLong
  else if path = [] ∨ Path.isAbsolute path then .error .notFound
  else .ok ()

/-- The route of what a path names. -/
def resolve (tree : FileTree) (path : Path) : Except FileError Route := do
  checkPath path
  tree.follow [] (Path.pieces path)

/-- What a path names. -/
def node? (tree : FileTree) (path : Path) : Option Node :=
  match tree.resolve path with
  | .ok route => tree.at? route
  | .error _ => none

def pathExists (tree : FileTree) (path : Path) : Bool := (tree.node? path).isSome

def isDirectory (tree : FileTree) (path : Path) : Bool := (tree.node? path).any (·.isDirectory)

def isFile (tree : FileTree) (path : Path) : Bool := (tree.node? path).any (!·.isDirectory)

/-- The text of a file. -/
def readText (tree : FileTree) (path : Path) : Except FileError Text := do
  let route ← tree.resolve path
  match tree.at? route with
  | none => .error .notFound
  | some .directory => .error .isDirectory
  | some (.file (.binary _)) => .error .notText
  | some (.file (.text text)) => .ok text

/-- What lies below a route, each with the names that lead to it from there. -/
def below (tree : FileTree) (route : Route) : List (Route × Node) :=
  tree.entries.filterMap fun (other, node) =>
    let rest := other.drop route.length
    if route.isPrefixOf other ∧ rest ≠ [] ∧ !Route.isOutside rest then some (rest, node) else none

/-- The tree with a node at a route, in place of what stood there. -/
def put (tree : FileTree) (route : Route) (node : Node) : FileTree :=
  if (tree.entries.lookup route).isSome then
    ⟨tree.entries.map fun (other, old) => if other = route then (other, node) else (other, old)⟩
  else ⟨tree.entries ++ [(route, node)]⟩

/-- Makes the directories that pieces name from a route, up to one that cannot be made. Returns the
tree with those that were made, and what stopped it. -/
def makeDirectories (tree : FileTree) (route : Route) : List Text → FileTree × Option FileError
  | [] => (tree, none)
  | piece :: rest =>
    if Path.isSilent piece then tree.makeDirectories route rest
    else if piece = upwards then tree.makeDirectories (Route.above route) rest
    else if nameLimit < Text.size piece then (tree, some .nameTooLong)
    else
      match tree.at? (route ++ [piece]) with
      | some .directory => tree.makeDirectories (route ++ [piece]) rest
      | some (.file _) => (tree, some .notDirectory)
      | none => (tree.put (route ++ [piece]) .directory).makeDirectories (route ++ [piece]) rest

/-- Makes a directory and those it lies in. The empty path names the directory itself. -/
def makeDirectory (tree : FileTree) (path : Path) : FileTree × Option FileError :=
  match checkPath path with
  | .error cause => if path = [] then (tree, none) else (tree, some cause)
  | .ok () => tree.makeDirectories [] (Path.pieces path)

/-- Writes a file whose directory exists. -/
def write (tree : FileTree) (path : Path) (content : Content) : Except FileError FileTree := do
  checkPath path
  let pieces := Path.pieces path
  let route ← tree.follow [] pieces.dropLast
  match pieces.getLast? with
  | none => throw .notFound
  | some name =>
    if Path.isSilent name ∨ name = upwards then throw .isDirectory
    match tree.at? route, tree.at? (route ++ [name]) with
    | none, _ => throw .notFound
    | some (.file _), _ => throw .notDirectory
    | _, some .directory => throw .isDirectory
    | _, _ =>
      if nameLimit < Text.size name then throw .nameTooLong
      return tree.put (route ++ [name]) (.file content)

/-- The files of the directory and of those below it. -/
def files (tree : FileTree) : List (Route × Content) :=
  tree.entries.filterMap fun (route, node) =>
    match node with
    | .file content => if Route.isOutside route then none else some (route, content)
    | .directory => none

end FileTree

end MessageKeys
