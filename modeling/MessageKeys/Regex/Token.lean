import MessageKeys.Regex.Bracket
import MessageKeys.Text.Letter

/-!
The tokens of a pattern.

A token is read from the front of the text under the flags that hold there. A text that is no
pattern gives `none`; why it is refused is not told.
-/
namespace MessageKeys.Regex

/-- A token of a pattern. -/
inductive Token where
  /-- One character of a set, with the depth of the set's syntax. -/
  | one (set : NestedSet)
  | anchor (condition : Anchor)
  | bar
  | openCapture (name? : Option Text)
  | openPlain (change : FlagChange)
  | setFlags (change : FlagChange)
  | close
  | times (least : Nat) (most? : Option Nat) (greedy : Bool)
  deriving DecidableEq, Repr

/-- A character that stands for itself, in either case if the flags say so. -/
def literalToken (flags : Flags) (c : Char) : Token :=
  .one ⟨flags.foldCase (.single c.toNat), 0⟩

/-- Any character, line ends apart unless the flags include them. Where classes are those of ASCII,
it is refused. -/
def dotToken? (flags : Flags) : Option Token :=
  let lineEnds : CodeRanges :=
    if flags.dotAll then []
    else if flags.returns then [(0x0A, 0x0A), (0x0D, 0x0D)]
    else [(0x0A, 0x0A)]
  if flags.unicode then some (.one ⟨lineEnds.complement, 0⟩) else none

/-- The start of the text, or of a line. -/
def caretToken (flags : Flags) : Token :=
  .anchor <|
    if flags.multiLine then if flags.returns then .returnStart else .lineStart else .textStart

/-- The end of the text, or of a line. -/
def dollarToken (flags : Flags) : Token :=
  .anchor (if flags.multiLine then if flags.returns then .returnEnd else .lineEnd else .textEnd)

/-- A repetition, made lazy by a question mark that follows it. -/
def timesToken (least : Nat) (most? : Option Nat) (rest : Text) : Taken Token :=
  match rest with
  | '?' :: rest => (.times least most? false, rest)
  | _ => (.times least most? true, rest)

/-- Reads a decimal number of 32 bits with blanks around it. -/
def readCount? (flags : Flags) (text : Text) : Option (Taken Nat) :=
  let (digits, rest) := readDigits flags.ignoreBlanks false (Text.trimStart text)
  let value := Text.digitsValue digits
  if digits ≠ [] ∧ value < 4294967296 then some (value, flags.skip (Text.trimStart rest)) else none

/-- Reads the bounds of a repetition; `text` follows the opening brace. -/
def readBounds? (flags : Flags) (text : Text) : Option (Taken (Nat × Option Nat)) := do
  let (least, rest) ← readCount? flags (flags.skip text)
  match rest with
  | '}' :: rest => return ((least, some least), rest)
  | ',' :: rest =>
    match flags.skip rest with
    | '}' :: rest => return ((least, none), rest)
    | rest =>
      let (most, rest) ← readCount? flags rest
      match rest with
      | '}' :: rest => if least ≤ most then return ((least, some most), rest) else none
      | _ => none
  | _ => none

/-- A character that a group's name may begin with. -/
def isGroupNameStart (c : Char) : Bool := c == '_' || Text.isAlphabetic c

/-- A character that a group's name may go on with. -/
def isGroupNamePart (c : Char) : Bool :=
  c ∈ ['_', '.', '[', ']'] || Text.isAlphabetic c || Text.isNumeric c

def isGroupName : Text → Bool
  | [] => false
  | c :: rest => isGroupNameStart c && rest.all isGroupNamePart

/-- Reads the name of a group up to the closing angle bracket. -/
def readGroupName? (text : Text) : Option (Taken Token) := do
  let (name, rest) ← Text.cutFirst? '>' text
  if isGroupName name then return (.openCapture (some name), rest) else none

/-- Reads what opens a group; `text` follows the parenthesis. -/
def readGroup? (text : Text) : Option (Taken Token) :=
  match text with
  | '?' :: 'P' :: '<' :: rest => readGroupName? rest
  | '?' :: '<' :: rest => readGroupName? rest
  | '?' :: rest => do
    let letters := rest.takeWhile fun c => c != ')' && c != ':'
    let change ← FlagChange.ofText? letters
    match rest.drop letters.length with
    | ':' :: rest => return (.openPlain change, rest)
    | ')' :: rest => if letters = [] then none else return (.setFlags change, rest)
    | _ => none
  | _ => some (.openCapture none, text)

/-- The token that an escape is outside brackets. -/
def Escape.toToken (flags : Flags) : Escape → Token
  | literal c => literalToken flags c
  | set ranges => .one ⟨ranges, 0⟩
  | place condition => .anchor condition

/-- Reads the token that begins with `c`; `rest` follows it. -/
def readToken? (flags : Flags) (c : Char) (rest : Text) : Option (Taken Token) :=
  match c with
  | '\\' => (readEscape? flags rest).map fun (escape, rest) => (escape.toToken flags, rest)
  | '.' => (dotToken? flags).map fun token => (token, rest)
  | '^' => some (caretToken flags, rest)
  | '$' => some (dollarToken flags, rest)
  | '|' => some (.bar, rest)
  | ')' => some (.close, rest)
  | '(' => readGroup? (flags.skip rest)
  | '[' => (readBracket? flags rest).map fun (set, rest) => (.one set, rest)
  | '*' => some (timesToken 0 none rest)
  | '+' => some (timesToken 1 none rest)
  | '?' => some (timesToken 0 (some 1) rest)
  | '{' => (readBounds? flags rest).map fun ((least, most?), rest) =>
      timesToken least most? (flags.skip rest)
  | _ => some (literalToken flags c, rest)

end MessageKeys.Regex
