import MessageKeys.Json.Basic

/-!
Writing JSON.

In strings the quote, the backslash and the control characters are escaped, those of them that have
a letter by it and the others by four hexadecimal digits; all other characters stand for themselves.
`Json.pretty` puts each item on a line of its own, indented by two blanks a level, and
`Json.compact` writes no blanks at all.
-/
namespace MessageKeys.Json

/-- A hexadecimal digit in lower case. -/
def hexDigit (n : Nat) : Char := Nat.digitChar n

/-- A character of a string as it is written. -/
def escapeChar (c : Char) : Text :=
  if c = '"' then ['\\', '"']
  else if c = '\\' then ['\\', '\\']
  else if c.toNat = 0x08 then ['\\', 'b']
  else if c.toNat = 0x0C then ['\\', 'f']
  else if c = '\n' then ['\\', 'n']
  else if c = '\r' then ['\\', 'r']
  else if c = '\t' then ['\\', 't']
  else if c.toNat < 0x20 then
    ['\\', 'u', '0', '0', hexDigit (c.toNat / 16), hexDigit (c.toNat % 16)]
  else [c]

/-- A string with its quotes. -/
def quote (text : Text) : Text := '"' :: text.flatMap escapeChar ++ ['"']

/-- A new line, indented for a level. -/
def newline (level : Nat) : Text := '\n' :: List.replicate (2 * level) ' '

/-- Items between brackets, each on a line of the inner level. -/
def block (opening closing : Char) (level : Nat) (items : List Text) : Text :=
  if items = [] then [opening, closing]
  else
    opening :: newline (level + 1) ++ Text.join (',' :: newline (level + 1)) items ++
      newline level ++ [closing]

/-- A value that stands at a level, over several lines. -/
def prettyAt (level : Nat) : Json → Text
  | null => "null".toList
  | bool true => "true".toList
  | bool false => "false".toList
  | number digits => digits
  | string text => quote text
  | array items => block '[' ']' level (items.attach.map fun ⟨item, _⟩ => prettyAt (level + 1) item)
  | object fields =>
    block '{' '}' level <| fields.attach.map fun ⟨(name, value), _⟩ =>
      quote name ++ [':', ' '] ++ prettyAt (level + 1) value
termination_by json => sizeOf json
decreasing_by
  · have := List.sizeOf_lt_of_mem ‹item ∈ items›
    simp
    omega
  · have := List.sizeOf_lt_of_mem ‹(name, value) ∈ fields›
    simp at this ⊢
    omega

/-- A value over several lines. -/
def pretty (json : Json) : Text := prettyAt 0 json

/-- A value on one line. -/
def compact : Json → Text
  | null => "null".toList
  | bool true => "true".toList
  | bool false => "false".toList
  | number digits => digits
  | string text => quote text
  | array items => '[' :: Text.join [','] (items.attach.map fun ⟨item, _⟩ => compact item) ++ [']']
  | object fields =>
    let written := fields.attach.map fun ⟨(name, value), _⟩ => quote name ++ ':' :: compact value
    '{' :: Text.join [','] written ++ ['}']
termination_by json => sizeOf json
decreasing_by
  · have := List.sizeOf_lt_of_mem ‹item ∈ items›
    simp
    omega
  · have := List.sizeOf_lt_of_mem ‹(name, value) ∈ fields›
    simp at this ⊢
    omega

end MessageKeys.Json
