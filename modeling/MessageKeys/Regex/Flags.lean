import MessageKeys.Text.Basic
import MessageKeys.Text.Blank

/-!
Flags of patterns, and the blanks that one of them lets a pattern have.

With the flag for blanks, blanks and comments are passed over between the parts of a pattern. A
comment goes from `#` to the end of its line.
-/
namespace MessageKeys.Regex

/-- The flags that change how a pattern is understood. -/
structure Flags where
  ignoreCase : Bool
  multiLine : Bool
  dotAll : Bool
  swapGreed : Bool
  /-- A carriage return ends a line too. -/
  returns : Bool
  /-- Classes are those of all characters, and not of ASCII. -/
  unicode : Bool
  ignoreBlanks : Bool
  deriving DecidableEq, Repr

namespace Flags

/-- The flags at the start of a pattern. -/
def start : Flags := ⟨false, false, false, false, false, true, false⟩

/-- Flags with one of them set or cleared, by its letter. -/
def put? (flags : Flags) (value : Bool) : Char → Option Flags
  | 'i' => some { flags with ignoreCase := value }
  | 'm' => some { flags with multiLine := value }
  | 's' => some { flags with dotAll := value }
  | 'U' => some { flags with swapGreed := value }
  | 'R' => some { flags with returns := value }
  | 'u' => some { flags with unicode := value }
  | 'x' => some { flags with ignoreBlanks := value }
  | _ => none

end Flags

/-- A change of flags: letters to set and letters to clear. -/
structure FlagChange where
  set : Text
  clear : Text
  deriving DecidableEq, Repr

namespace FlagChange

/-- Reads letters, each at most once, with at most one minus sign that some letter follows. -/
def ofText? (letters : Text) : Option FlagChange :=
  let (set, clear) := (Text.cutFirst? '-' letters).getD (letters, [])
  let known := (set ++ clear).all fun c => (Flags.start.put? true c).isSome
  let dangling := '-' ∈ letters ∧ clear = []
  if known ∧ (set ++ clear).Nodup ∧ ¬dangling then some ⟨set, clear⟩ else none

def apply (change : FlagChange) (flags : Flags) : Flags :=
  let put (value : Bool) (flags : Flags) (c : Char) := (flags.put? value c).getD flags
  change.clear.foldl (put false) (change.set.foldl (put true) flags)

end FlagChange

/-- A value and the pattern behind what it was read from. -/
abbrev Taken (α : Type) := α × Text

/-- Passes over blanks and comments; `comment` tells that the pattern begins in a comment. -/
def skipBlanks (comment : Bool) : Text → Text
  | [] => []
  | c :: rest =>
    if comment then skipBlanks (c != '\n') rest
    else if Text.isBlank c then skipBlanks false rest
    else if c = '#' then skipBlanks true rest
    else c :: rest

namespace Flags

/-- Passes over what the flags allow between two parts. -/
def skip (flags : Flags) (text : Text) : Text :=
  if flags.ignoreBlanks then skipBlanks false text else text

/-- The character that decides whether a minus sign stands for a range; `text` is what follows the
sign. A comment is passed over only up to its first character that is not blank. -/
def peek? (flags : Flags) (text : Text) : Option Char :=
  if flags.ignoreBlanks then
    match Text.trimStart text with
    | '#' :: rest => (Text.trimStart rest).head?.or text.head?
    | rest => rest.head?.or text.head?
  else text.head?

end Flags

/-- Reads up to the closing brace, leaving out what the flag for blanks allows. -/
def readBraced? (ignoreBlanks comment : Bool) : Text → Option (Taken Text)
  | [] => none
  | c :: rest =>
    if comment then readBraced? ignoreBlanks (c != '\n') rest
    else if ignoreBlanks ∧ Text.isBlank c then readBraced? ignoreBlanks false rest
    else if ignoreBlanks ∧ c = '#' then readBraced? ignoreBlanks true rest
    else if c = '}' then some ([], rest)
    else (readBraced? ignoreBlanks false rest).map fun (inner, rest) => (c :: inner, rest)

/-- Reads decimal digits, leaving out what the flag for blanks allows. -/
def readDigits (ignoreBlanks comment : Bool) : Text → Taken Text
  | [] => ([], [])
  | c :: rest =>
    if comment then readDigits ignoreBlanks (c != '\n') rest
    else if Text.isDigit c then
      let (digits, rest) := readDigits ignoreBlanks false rest
      (c :: digits, rest)
    else if ignoreBlanks ∧ Text.isBlank c then readDigits ignoreBlanks false rest
    else if ignoreBlanks ∧ c = '#' then readDigits ignoreBlanks true rest
    else ([], c :: rest)

end MessageKeys.Regex
