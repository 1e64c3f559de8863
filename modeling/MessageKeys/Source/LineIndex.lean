import MessageKeys.Text.Basic

/-!
Lines and columns of a source text.

Lines are counted from one and end at `\n`; columns are counted from one in characters. The start of
every line is kept, in bytes, and the line of a position is the number of starts up to it, which
bisection finds since the starts increase. The text of a line is shown without the `\n` and `\r`
characters at its end.
-/
namespace MessageKeys

/-- A place in a source file. -/
structure Location where
  file : Text
  line : Nat
  column : Nat
  deriving DecidableEq, Repr

/-- A place together with the text of its line. -/
structure SourceContext where
  location : Location
  sourceLine : Text
  deriving DecidableEq, Repr

/-- Positions after each `\n` of a text that stands at byte `offset`. -/
def lineBreaks (offset : Nat) : Text → List Nat
  | [] => []
  | c :: rest =>
    if c = '\n' then (offset + 1) :: lineBreaks (offset + 1) rest
    else lineBreaks (offset + c.utf8Size) rest

/-- The number of entries up to `offset` in an increasing table, of which the first `low` are known
to be up to it and those from `high` on are known to be past it. -/
def countUpTo (table : Array Nat) (offset low high : Nat) : Nat :=
  if low < high then
    let middle := (low + high) / 2
    match table[middle]? with
    | none => low
    | some entry =>
      if entry ≤ offset then countUpTo table offset (middle + 1) high
      else countUpTo table offset low middle
  else low
termination_by high - low

/-- A text with the byte positions at which its lines start. -/
structure LineIndex where
  source : Text
  starts : Array Nat
  deriving DecidableEq, Repr

namespace LineIndex

def ofText (source : Text) : LineIndex := ⟨source, (0 :: lineBreaks 0 source).toArray⟩

/-- The line of a position: the number of lines that start at it or before it. -/
def lineOf (index : LineIndex) (offset : Nat) : Nat :=
  countUpTo index.starts offset 0 index.starts.size

/-- Line and column of a position; a position past the end counts as the end. A position inside a
character has column one. -/
def lineColumn (index : LineIndex) (offset : Nat) : Nat × Nat :=
  let offset := min offset (Text.size index.source)
  let line := index.lineOf offset
  let column :=
    match index.starts[line - 1]? with
    | some start => ((Text.slice? index.source start offset).map List.length).getD 0
    | none => 0
  (line, column + 1)

/-- The text of a line without its line end; there is no text before the first or after the last
line. -/
def lineText (index : LineIndex) (line : Nat) : Text :=
  match index.starts[line - 1]? with
  | none => []
  | some start =>
    let stop := index.starts[line]?.getD (Text.size index.source)
    let text := (Text.slice? index.source start stop).getD []
    (text.reverse.dropWhile fun c => c == '\n' || c == '\r').reverse

/-- The position of a line and column. Columns past the end of a line count as its end. -/
def offsetOf? (index : LineIndex) (line column : Nat) : Option Nat :=
  if line = 0 then none
  else index.starts[line - 1]?.map fun start =>
    start + Text.size ((index.lineText line).take (column - 1))

/-- A position of a file together with the text of its line. -/
def contextAt (index : LineIndex) (file : Text) (offset : Nat) : SourceContext :=
  let (line, column) := index.lineColumn offset
  ⟨⟨file, line, column⟩, index.lineText line⟩

end LineIndex

end MessageKeys
