import MessageKeys.Regex.Basic
import MessageKeys.Regex.Flags
import MessageKeys.Regex.Property
import MessageKeys.Text.CaseFolding

/-!
What a backslash stands for in a pattern: a character, a set of characters or a place.

Sets depend on the flags. Where classes are those of ASCII, a set that holds other characters is
refused, because it might take a part of a character; so no set may be negated there.
-/
namespace MessageKeys.Regex

/-- What an escape stands for. -/
inductive Escape where
  | literal (c : Char)
  | set (ranges : CodeRanges)
  | place (anchor : Anchor)
  deriving DecidableEq, Repr

namespace Flags

/-- The set regardless of case, if the flags say so. -/
def foldCase (flags : Flags) (set : CodeRanges) : CodeRanges :=
  if flags.ignoreCase then
    if flags.unicode then set.anyCase else set.anyAsciiCase
  else set

/-- The set or its complement. -/
def negate? (flags : Flags) (negated : Bool) (set : CodeRanges) : Option CodeRanges :=
  if negated then
    if flags.unicode then some set.complement else none
  else some set

/-- The places of a kind, for words of all characters or of ASCII. -/
def wordAnchor (flags : Flags) (place : WordPlace) : Anchor :=
  if flags.unicode then .word place else .asciiWord place

end Flags

def asciiDigits : CodeRanges := [(0x30, 0x39)]

def asciiWords : CodeRanges := [(0x30, 0x39), (0x41, 0x5A), (0x5F, 0x5F), (0x61, 0x7A)]

def asciiBlanks : CodeRanges := [(0x09, 0x0D), (0x20, 0x20)]

/-- The characters with the property White_Space. -/
def blanks : CodeRanges :=
  [(0x09, 0x0D), (0x20, 0x20), (0x85, 0x85), (0xA0, 0xA0), (0x1680, 0x1680), (0x2000, 0x200A),
   (0x2028, 0x2029), (0x202F, 0x202F), (0x205F, 0x205F), (0x3000, 0x3000)]

/-- The characters of words. -/
def words : CodeRanges := asciiWords ++ Text.wordRanges

/-- The set that a letter stands for, and whether its complement is meant. -/
def letterSet? (flags : Flags) (c : Char) : Option (CodeRanges × Bool) :=
  let digits := if flags.unicode then Text.decimalRanges else asciiDigits
  let words := if flags.unicode then words else asciiWords
  let blanks := if flags.unicode then blanks else asciiBlanks
  match c with
  | 'd' => some (digits, false)
  | 'w' => some (words, false)
  | 's' => some (blanks, false)
  | 'D' => some (digits, true)
  | 'W' => some (words, true)
  | 'S' => some (blanks, true)
  | _ => none

/-- The character whose code point hexadecimal digits write. -/
def hexChar? (digits : Text) : Option Char := do
  let values ← digits.mapM Text.hexValue?
  let value := values.foldl (fun total digit => 16 * total + digit) 0
  if digits ≠ [] ∧ value.isValidChar then some (Char.ofNat value) else none

/-- Reads so many characters, leaving out what the flags allow. -/
def readChars? (flags : Flags) : Nat → Text → Option (Taken Text)
  | 0, text => some ([], text)
  | n + 1, text =>
    match flags.skip text with
    | [] => none
    | c :: rest => (readChars? flags n rest).map fun (more, rest) => (c :: more, rest)

/-- Reads the digits of a hexadecimal escape: any number of them in braces, or else `width`. -/
def readHex? (flags : Flags) (width : Nat) (text : Text) : Option (Taken Char) :=
  match flags.skip text with
  | '{' :: rest => do
    let (digits, rest) ← readBraced? flags.ignoreBlanks false rest
    return (← hexChar? digits, rest)
  | text => do
    let (digits, rest) ← readChars? flags width text
    let c ← hexChar? digits
    -- Two digits write a byte where characters are those of ASCII.
    if width = 2 ∧ !flags.unicode ∧ 128 ≤ c.toNat then none else return (c, rest)

/-- Reads the name of a property, one letter or any text in braces. -/
def readProperty? (flags : Flags) (negated : Bool) (text : Text) : Option (Taken CodeRanges) := do
  let (name, rest) ←
    match flags.skip text with
    | '{' :: rest => readBraced? flags.ignoreBlanks false rest
    | c :: rest => some ([c], rest)
    | [] => none
  let (set, unequal) ← Property.ofText? name
  if flags.unicode then
    return (← flags.negate? (negated != unequal) (flags.foldCase set), rest)
  else none

/-- The places that a word boundary's name in braces stands for. -/
def namedPlace? (name : Text) : Option WordPlace :=
  match String.ofList name with
  | "start" => some .start
  | "end" => some .stop
  | "start-half" => some .startHalf
  | "end-half" => some .stopHalf
  | _ => none

/-- Reads a word boundary; `text` stands after its letter. Braces that begin with a letter or a
minus sign hold a name, others belong to a repetition. -/
def readBoundary? (flags : Flags) (text : Text) : Option (Taken Escape) :=
  let plain := some (Escape.place (flags.wordAnchor .boundary), text)
  match text with
  | '{' :: rest =>
    match flags.skip rest with
    | [] => none
    | c :: _ =>
      if Text.isAsciiLetter c ∨ c = '-' then do
        let (name, rest) ← readBraced? flags.ignoreBlanks false rest
        let place ← namedPlace? name
        return (.place (flags.wordAnchor place), rest)
      else plain
  | _ => plain

/-- Reads what a backslash stands for; `text` follows the backslash. -/
def readEscape? (flags : Flags) : Text → Option (Taken Escape)
  | [] => none
  | c :: rest =>
    let literal (c : Char) := some (Escape.literal c, rest)
    let place (anchor : Anchor) := some (Escape.place anchor, rest)
    let hex (width : Nat) :=
      (readHex? flags width rest).map fun (c, rest) => (Escape.literal c, rest)
    let property (negated : Bool) :=
      (readProperty? flags negated rest).map fun (set, rest) => (Escape.set set, rest)
    match letterSet? flags c with
    | some (set, negated) => (flags.negate? negated set).map fun set => (.set set, rest)
    | none =>
      match c with
      | 'a' => literal '\x07'
      | 'f' => literal '\x0c'
      | 't' => literal '\t'
      | 'n' => literal '\n'
      | 'r' => literal '\r'
      | 'v' => literal '\x0b'
      | 'x' => hex 2
      | 'u' => hex 4
      | 'U' => hex 8
      | 'p' => property false
      | 'P' => property true
      | 'A' => place .textStart
      | 'z' => place .textEnd
      | 'b' => readBoundary? flags rest
      | 'B' => place (flags.wordAnchor .noBoundary)
      | '<' => place (flags.wordAnchor .start)
      | '>' => place (flags.wordAnchor .stop)
      | _ => if c.toNat < 128 ∧ ¬c.isAlphanum then literal c else none

end MessageKeys.Regex
