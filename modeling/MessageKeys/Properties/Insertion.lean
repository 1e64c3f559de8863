import MessageKeys.Properties.Entry
import MessageKeys.Text.LetterCase

/-!
Adding a definition to a properties file.

A new line goes before the first line whose key is greater regardless of letter case, or to the end.
All other lines stay as they are, and the file's kind of line end is kept. A key that the file
defines is not added again.
-/
namespace MessageKeys.Properties

/-- The line end that a file uses: `\r\n` if it occurs anywhere, else `\n`. -/
def lineEnd (content : Text) : Text :=
  if Text.hasPart ['\r', '\n'] content then ['\r', '\n'] else ['\n']

/-- The line that defines a key. -/
def newLine (key value : Text) : Text := key ++ '=' :: value

/-- The key that a line defines, read without its template. -/
def key? (line : Text) : Option Text :=
  let trimmed := Text.trim line
  if trimmed = [] ∨ trimmed.head? = some '#' then none
  else
    let key := Text.trim (((Text.cutFirst? '=' line).map (·.1)).getD line)
    if key = [] then none else some key

/-- Whether one key comes after another regardless of letter case. -/
def isAfter (key other : Text) : Bool :=
  compare (Text.lowercase key) (Text.lowercase other) == .gt

/-- The content with a definition added, or `none` if the key is defined. -/
def insert? (content key value : Text) : Option Text :=
  let eol := lineEnd content
  if content = [] then some (newLine key value ++ eol)
  else
    let terminated := content.getLast? = some '\n'
    let body := if terminated then Text.dropTail ['\r'] content.dropLast else content
    let existing := lines body
    if existing.any fun line => key? line == some key then none
    else
      let before := existing.takeWhile fun line => !(key? line).any (isAfter · key)
      let after := existing.dropWhile fun line => !(key? line).any (isAfter · key)
      let joined := Text.join eol (before ++ newLine key value :: after)
      some (if terminated ∨ after = [] then joined ++ eol else joined)

end MessageKeys.Properties
