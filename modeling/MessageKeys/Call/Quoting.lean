import MessageKeys.Text.Basic

/-!
Quoted literals in source text.

A reader of source text passes its characters one by one and has to know whether it stands inside a
literal. A literal opens at `"` or `'` and closes at the next such character that no backslash
directly precedes; a literal that is never closed runs to the end of the text.
-/
namespace MessageKeys.Call

/-- What a reader remembers of the characters before it: the quote of the literal it is in, and
whether the last character was a backslash. -/
structure Quoting where
  delimiter : Option Char
  afterBackslash : Bool
  deriving DecidableEq, Repr

namespace Quoting

/-- At the start of a text no literal is open. -/
def start : Quoting := ⟨none, false⟩

/-- Whether a literal is open. -/
def isOpen (state : Quoting) : Bool := state.delimiter.isSome

/-- A character that opens a literal. -/
def isQuote (c : Char) : Bool := c == '"' || c == '\''

/-- The state after one more character. -/
def step (state : Quoting) (c : Char) : Quoting :=
  { delimiter :=
      match state.delimiter with
      | some quote => if c = quote ∧ ¬state.afterBackslash then none else some quote
      | none => if isQuote c then some c else none
    afterBackslash := c == '\\' }

end Quoting

end MessageKeys.Call
