import MessageKeys.Text.Basic

/-!
Occurrences of something in a text, left to right and without overlap.

A reader looks at the beginning of a text and says whether what it looks for stands there, giving
the text it took and a value. `occurrences` tries it at every position; after a find it goes on
behind the text that was taken.
-/
namespace MessageKeys.Text

/-- Takes a text from the beginning of another and gives a value for it. -/
abbrev Reader (α : Type) := Text → Option (Text × α)

/-- Something found at a byte position. -/
structure Found (α : Type) where
  start : Nat
  taken : Text
  value : α
  deriving DecidableEq, Repr

/-- What `read` finds in a text that begins at byte `offset`, the first `skip` characters apart. -/
def occurrencesFrom {α : Type} (read : Reader α) (skip offset : Nat) : Text → List (Found α)
  | [] => []
  | c :: rest =>
    match skip with
    | later + 1 => occurrencesFrom read later (offset + c.utf8Size) rest
    | 0 =>
      match read (c :: rest) with
      | some (taken, value) =>
        ⟨offset, taken, value⟩ :: occurrencesFrom read (taken.length - 1) (offset + c.utf8Size) rest
      | none => occurrencesFrom read 0 (offset + c.utf8Size) rest

/-- All finds of a reader, left to right and without overlap. -/
def occurrences {α : Type} (read : Reader α) (text : Text) : List (Found α) :=
  occurrencesFrom read 0 0 text

end MessageKeys.Text
