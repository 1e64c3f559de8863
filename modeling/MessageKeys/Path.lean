import MessageKeys.Text.Basic

/-!
Paths, as they are written.

A path is a text whose pieces are divided by slashes. Its parts are what the pieces mean: a leading
slash is the root, a leading dot the current directory, two dots the parent, anything else a name;
empty pieces and dots further on mean nothing. Two paths are compared by their parts, while joining
and taking parents keep the spelling.
-/
namespace MessageKeys

/-- A path as it is written. -/
abbrev Path := Text

/-- What a piece of a path means. -/
inductive PathPart where
  | root
  | current
  | parent
  | name (text : Text)
  deriving DecidableEq, Repr

/-- Parts are ordered by kind, names among themselves by code points. -/
def PathPart.key : PathPart → List Nat
  | root => [0]
  | current => [1]
  | parent => [2]
  | name text => 3 :: text.map Char.toNat

namespace Path

/-- The texts between slashes. -/
def pieces (path : Path) : List Text := if path = [] then [] else List.splitOn '/' path

/-- A piece that means nothing behind the start of a path. -/
def isSilent (piece : Text) : Bool := piece == [] || piece == ['.']

/-- What a piece means. -/
def partAt? (atStart : Bool) (piece : Text) : Option PathPart :=
  if piece = [] then (if atStart then some .root else none)
  else if piece = ['.'] then (if atStart then some .current else none)
  else if piece = ['.', '.'] then some .parent
  else some (.name piece)

def partsFrom (atStart : Bool) : List Text → List PathPart
  | [] => []
  | piece :: rest => (partAt? atStart piece).toList ++ partsFrom false rest

/-- The parts of a path. -/
def parts (path : Path) : List PathPart := partsFrom true (pieces path)

/-- The order of paths: part by part. -/
def order (a b : Path) : Ordering :=
  compare ((parts a).map PathPart.key) ((parts b).map PathPart.key)

/-- Whether a path starts at the root. -/
def isAbsolute (path : Path) : Bool := path.head? == some '/'

/-- A path taken from a directory. An absolute path stays what it is. -/
def join (base path : Path) : Path :=
  if isAbsolute path ∨ base = [] then path
  else if base.getLast? = some '/' then base ++ path
  else base ++ '/' :: path

/-- Pieces without the silent ones at their end. -/
def dropSilentEnd (texts : List Text) : List Text := (texts.reverse.dropWhile isSilent).reverse

/-- Pieces put together again. -/
def ofPieces (texts : List Text) : Path := Text.join ['/'] texts

/-- The path without its last part; the empty path and the root have no parent. -/
def parent? (path : Path) : Option Path :=
  match pieces path with
  | [] => none
  | first :: more =>
    match dropSilentEnd more with
    | [] => if first = [] then none else some []
    | kept =>
      let above := dropSilentEnd kept.dropLast
      some (if above = [] ∧ first = [] then ['/'] else ofPieces (first :: above))

/-- The pieces that follow after the given parts. -/
def stripParts? (atStart : Bool) (base : List PathPart) : List Text → Option (List Text)
  | [] => if base = [] then some [] else none
  | piece :: rest =>
    match base with
    | [] => some (piece :: rest)
    | part :: more =>
      match partAt? atStart piece with
      | none => stripParts? false base rest
      | some here => if here = part then stripParts? false more rest else none

/-- The path as seen from a directory that it lies in. -/
def relativeTo? (base path : Path) : Option Path :=
  (stripParts? true (parts base) (pieces path)).map fun texts =>
    ofPieces (dropSilentEnd (texts.dropWhile isSilent))

/-- Whether a path lies in a directory or is the directory. -/
def liesIn (base path : Path) : Bool := (stripParts? true (parts base) (pieces path)).isSome

/-- The name at the end of a path. -/
def fileName? (path : Path) : Option Text :=
  match (parts path).getLast? with
  | some (.name text) => some text
  | _ => none

/-- What stands after the last dot of the file name; a name that begins with its only dot has none.
-/
def extension? (path : Path) : Option Text := do
  let (before, after) ← Text.cutLast? '.' (← fileName? path)
  if before = [] then none else some after

/-- A part as it is written. -/
def partText : PathPart → Text
  | .root => []
  | .current => ['.']
  | .parent => ['.', '.']
  | .name text => text

/-- A relative path without references to the current directory. -/
def withoutCurrent (path : Path) : Path :=
  ofPieces (((parts path).filter (· ≠ .current)).map partText)

end Path

end MessageKeys
