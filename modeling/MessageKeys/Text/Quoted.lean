import MessageKeys.Text.Basic
import MessageKeys.Text.Printable

/-!
Texts in quotes, for error messages.

Double quotes, backslashes and characters that cannot be shown on their own are written with a
backslash: a few by a letter, the others by their code point in hexadecimal.
-/
namespace MessageKeys.Text

/-- Lower-case hexadecimal digits of a number. -/
def hexDigits (n : Nat) : Text := Nat.toDigits 16 n

/-- A character as it is written between quotes. -/
def quoteChar (c : Char) : Text :=
  if c.toNat = 0 then ['\\', '0']
  else if c = '\t' then ['\\', 't']
  else if c = '\r' then ['\\', 'r']
  else if c = '\n' then ['\\', 'n']
  else if c = '"' ∨ c = '\\' then ['\\', c]
  else if isPrintable c then [c]
  else ['\\', 'u', '{'] ++ hexDigits c.toNat ++ ['}']

/-- A text between double quotes. -/
def quoted (text : Text) : Text := '"' :: text.flatMap quoteChar ++ ['"']

end MessageKeys.Text
