import MessageKeys.Text.Basic
import MessageKeys.Text.CodeRanges

/-!
Definitions of sets of characters.

A property of characters is given by a table, or made of others as its standard says. A table is a
text of code points and ranges in hexadecimal, with blanks or line ends between them, in increasing
order.
-/
namespace MessageKeys.Character

/-- How a set of characters is defined. -/
inductive Definition where
  | table (ranges : String)
  | listed (ranges : CodeRanges)
  | every
  | union (a b : Definition)
  | difference (a b : Definition)
  deriving DecidableEq, Repr

namespace Definition

/-- What is in one of the sets. -/
def anyOf : List Definition → Definition
  | [] => table ""
  | [only] => only
  | first :: more => union first (anyOf more)

/-- Reads the number that hexadecimal digits write. -/
def hexNumber (digits : Text) : Nat :=
  digits.foldl (fun value c => 16 * value + (Text.hexValue? c).getD 0) 0

/-- Reads a code point or a range. -/
def readRange? (entry : Text) : Option (Nat × Nat) :=
  match Text.cutFirst? '-' entry with
  | some (low, high) => some (hexNumber low, hexNumber high)
  | none => if entry = [] then none else some (hexNumber entry, hexNumber entry)

/-- Reads a table. -/
def readTable (table : String) : CodeRanges :=
  (table.toList.splitOnP fun c => c == ' ' || c == '\n').filterMap readRange?

/-- The characters of the set. -/
def ranges : Definition → CodeRanges
  | table entries => readTable entries
  | listed ranges => ranges
  | every => CodeRanges.everyChar
  | union a b => a.ranges.union b.ranges
  | difference a b => a.ranges.difference b.ranges

end Definition

end MessageKeys.Character
