import MessageKeys.Text.Blank

/-!
Message definitions and the files they stand in.

A properties file defines one message a line: the key up to the first `=`, the template after it,
both trimmed. Blank lines and lines whose first character is `#` define nothing, and a line without
`=` defines its text with an empty template. Lines end at `\n`, and a `\r` before it does not belong
to the line.
-/
namespace MessageKeys

/-- A message as it is defined in a properties file. -/
structure Entry where
  key : Text
  value : Text
  file : Text
  /-- The line of the definition, counted from one. -/
  line : Nat
  deriving DecidableEq, Repr

namespace Properties

/-- The lines of a file. -/
def lines (content : Text) : List Text := (List.splitOn '\n' content).map (Text.dropTail ['\r'])

/-- The key and template that a line defines. -/
def definition? (line : Text) : Option (Text × Text) :=
  let trimmed := Text.trim line
  if trimmed = [] ∨ trimmed.head? = some '#' then none
  else
    let (key, value) := (Text.cutFirst? '=' line).getD (line, [])
    if Text.trim key = [] then none else some (Text.trim key, Text.trim value)

/-- The definitions of consecutive lines, the first of which has number `line`. -/
def entriesFrom (file : Text) (line : Nat) : List Text → List Entry
  | [] => []
  | text :: more =>
    ((definition? text).map fun (key, value) => ⟨key, value, file, line⟩).toList ++
      entriesFrom file (line + 1) more

/-- The definitions of a file. -/
def parse (content file : Text) : List Entry := entriesFrom file 1 (lines content)

end Properties

end MessageKeys
