import MessageKeys.Source.LineIndex

/-!
Places in source files, as they are written.

A place is written as file, line and column with colons between them. Since a file name may hold
colons, reading goes by the last two.
-/
namespace MessageKeys

/-- Why a text names no place. -/
inductive PositionError where
  | shape (text : Text)
  | line (text : Text)
  | column (text : Text)
  deriving DecidableEq, Repr

def PositionError.message : PositionError → Text
  | shape text => "Invalid position '".toList ++ text ++ "', expected FILE:LINE:COL".toList
  | line text => "Invalid line number in '".toList ++ text ++ ['\'']
  | column text => "Invalid column number in '".toList ++ text ++ ['\'']

namespace Location

/-- A place as it is written. -/
def toText (location : Location) : Text :=
  Text.join [':'] [location.file, Text.ofNat location.line, Text.ofNat location.column]

/-- The place that a text names; the line is looked at before the column. -/
def ofText (text : Text) : Except PositionError Location := do
  let some (before, column) := Text.cutLast? ':' text | throw (.shape text)
  let some (file, line) := Text.cutLast? ':' before | throw (.shape text)
  let some line := Text.parseNat? line | throw (.line text)
  let some column := Text.parseNat? column | throw (.column text)
  return ⟨file, line, column⟩

end Location

end MessageKeys
