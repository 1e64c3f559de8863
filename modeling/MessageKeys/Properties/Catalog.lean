import MessageKeys.Properties.Entry
import MessageKeys.Text.LetterCase

/-!
The catalog of messages.

A catalog holds the definitions of several files, at most one for each key: the first definition
that is inserted stays. It also remembers which files contributed. Keys and search results are given
in the order of the keys' code points.
-/
namespace MessageKeys

/-- Message definitions with distinct keys, and the files they were loaded from. -/
structure Catalog where
  entries : List Entry
  files : List Text
  deriving DecidableEq, Repr

namespace Catalog

def empty : Catalog := ⟨[], []⟩

/-- The definition of a key. -/
def get? (catalog : Catalog) (key : Text) : Option Entry :=
  catalog.entries.find? fun entry => entry.key == key

def contains (catalog : Catalog) (key : Text) : Bool := (catalog.get? key).isSome

/-- The template of a key. -/
def template? (catalog : Catalog) (key : Text) : Option Text := (catalog.get? key).map (·.value)

def size (catalog : Catalog) : Nat := catalog.entries.length

/-- Remembers a file. -/
def addFile (catalog : Catalog) (file : Text) : Catalog :=
  { catalog with files := catalog.files ++ [file] }

/-- Adds a definition unless its key is defined. -/
def insert (catalog : Catalog) (entry : Entry) : Catalog :=
  if catalog.contains entry.key then catalog
  else { catalog with entries := catalog.entries ++ [entry] }

/-- Adds a definition, and tells whether it was added or is shadowed by an earlier one. -/
def tryInsert (catalog : Catalog) (entry : Entry) : Catalog × Bool :=
  (catalog.insert entry, !catalog.contains entry.key)

/-- Adds definitions one after another. -/
def extend (catalog : Catalog) (entries : List Entry) : Catalog := entries.foldl insert catalog

/-- Loads the definitions of a file. -/
def load (catalog : Catalog) (file content : Text) : Catalog :=
  (catalog.addFile file).extend (Properties.parse content file)

/-- All keys in order. -/
def keys (catalog : Catalog) : List Text := (catalog.entries.map (·.key)).mergeSort Text.le

/-- The definitions whose key holds the filter regardless of letter case, in the order of their
keys. -/
def search (catalog : Catalog) (filter : Text) : List Entry :=
  let needle := Text.lowercase filter
  (catalog.entries.filter fun entry => Text.hasPart needle (Text.lowercase entry.key)).mergeSort
    fun a b => Text.le a.key b.key

end Catalog

end MessageKeys
