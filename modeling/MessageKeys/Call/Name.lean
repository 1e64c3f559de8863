import MessageKeys.Text.Blank
import MessageKeys.Text.Word

/-!
Names in source text: identifiers, dotted names and the readers for them.

A name begins with an ASCII letter, `_` or `$`. Where a name is read out of a longer text, it goes
on with any word characters or `$`; a text that is itself taken for an identifier has to be ASCII
throughout.
-/
namespace MessageKeys.Call

/-- A character that a name begins with. -/
def isNameStart (c : Char) : Bool := Text.isAsciiLetter c || c == '_' || c == '$'

/-- A character that a name goes on with. -/
def isNamePart (c : Char) : Bool := Text.isWord c || c == '$'

/-- A character that a bare identifier goes on with. -/
def isIdentifierPart (c : Char) : Bool := isNameStart c || Text.isDigit c

/-- Whether the whole text is one ASCII identifier. -/
def isIdentifier : Text → Bool
  | [] => false
  | c :: rest => isNameStart c && rest.all isIdentifierPart

/-- Reads a name and returns it with the text after it. -/
def readName? : Text → Option (Text × Text)
  | [] => none
  | c :: rest =>
    if isNameStart c then some (c :: rest.takeWhile isNamePart, rest.dropWhile isNamePart) else none

/-- The text after the longest run of name parts and of dots that begin a further name. -/
def dropDotted : Text → Text
  | [] => []
  | c :: rest =>
    if isNamePart c || (c == '.' && rest.head?.any isNameStart) then dropDotted rest else c :: rest

theorem length_dropDotted_le (text : Text) : (dropDotted text).length ≤ text.length := by
  induction text with
  | nil => simp [dropDotted]
  | cons c rest ih =>
    simp only [dropDotted]
    split
    · exact Nat.le_succ_of_le ih
    · exact Nat.le_refl _

end MessageKeys.Call
