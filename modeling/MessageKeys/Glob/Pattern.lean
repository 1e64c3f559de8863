import MessageKeys.Text.Basic

/-!
Glob patterns.

`?` stands for any character, `*` for any text, brackets for one of a set of characters, and `**`,
which has to be a whole path component, for any number of directories. A slash is a character like
any other. A pattern that breaks these rules is refused with the position, counted in characters, at
which it does.
-/
namespace MessageKeys

/-- Characters in brackets: single ones and ranges. -/
inductive GlobItem where
  | one (c : Char)
  | range (low high : Char)
  deriving DecidableEq, Repr

def GlobItem.accepts : GlobItem → Char → Bool
  | one a, c => a == c
  | range low high, c => low ≤ c && c ≤ high

/-- A token of a pattern. -/
inductive GlobToken where
  | literal (c : Char)
  | anyChar
  | oneOf (items : List GlobItem)
  | noneOf (items : List GlobItem)
  /-- Any text, written `*`. -/
  | anyText
  /-- Any number of directories, written `**`, with the slash behind it. -/
  | anyDirectories
  deriving DecidableEq, Repr

/-- Why a text is no pattern. -/
inductive GlobFault where
  | wildcards
  | recursive
  | range
  deriving DecidableEq, Repr

def GlobFault.message : GlobFault → Text
  | wildcards => "wildcards are either regular `*` or recursive `**`".toList
  | recursive => "recursive wildcards must form a single path component".toList
  | range => "invalid range pattern".toList

/-- A fault and the character at which it lies. -/
structure GlobError where
  position : Nat
  fault : GlobFault
  deriving DecidableEq, Repr

def GlobError.message (error : GlobError) : Text :=
  "Pattern syntax error near position ".toList ++ Text.ofNat error.position ++ ": ".toList ++
    error.fault.message

/-- A glob pattern. -/
structure GlobPattern where
  tokens : List GlobToken
  deriving DecidableEq, Repr

namespace GlobPattern

/-- The items that stand in brackets; the first `skip` characters have been read. -/
def items (skip : Nat) : Text → List GlobItem
  | [] => []
  | c :: rest =>
    match skip with
    | later + 1 => items later rest
    | 0 =>
      match rest with
      | '-' :: high :: _ => .range c high :: items 2 rest
      | _ => .one c :: items 0 rest

/-- Reads a set in brackets; `rest` stands after the opening one. The closing bracket is searched
behind the first character of the set, which may be a bracket itself. -/
def readSet? (rest : Text) : Option (GlobToken × Nat) :=
  match rest with
  | '!' :: first :: more =>
    (Text.cutFirst? ']' more).map fun (inner, _) =>
      (.noneOf (items 0 (first :: inner)), inner.length + 3)
  | '!' :: [] => none
  | first :: more =>
    (Text.cutFirst? ']' more).map fun (inner, _) =>
      (.oneOf (items 0 (first :: inner)), inner.length + 2)
  | [] => none

/-- Reads stars, the first of which stands at `position` behind `last?`; `rest` stands after it. -/
def readStars (position : Nat) (last? : Option Char) (rest : Text) :
    Except GlobError (GlobToken × Nat) :=
  match (rest.takeWhile (· == '*')).length with
  | 0 => .ok (.anyText, 0)
  | 1 =>
    if last?.all (· == '/') then
      match rest.drop 1 with
      | [] => .ok (.anyDirectories, 1)
      | next :: _ =>
        if next = '/' then .ok (.anyDirectories, 2) else .error ⟨position + 2, .recursive⟩
    else .error ⟨position - 1, .recursive⟩
  | _ => .error ⟨position + 2, .wildcards⟩

/-- Reads the token that begins with `c` at `position`, and returns the number of characters that it
takes from `rest`. -/
def readToken (position : Nat) (last? : Option Char) (c : Char) (rest : Text) :
    Except GlobError (GlobToken × Nat) :=
  if c = '?' then .ok (.anyChar, 0)
  else if c = '*' then readStars position last? rest
  else if c = '[' then
    match readSet? rest with
    | some found => .ok found
    | none => .error ⟨position, .range⟩
  else .ok (.literal c, 0)

/-- The tokens of a text that stands at `position` behind `last?`; the first `skip` characters have
been read. -/
def tokensFrom (skip position : Nat) (last? : Option Char) :
    Text → Except GlobError (List GlobToken)
  | [] => .ok []
  | c :: rest =>
    match skip with
    | later + 1 => tokensFrom later (position + 1) (some c) rest
    | 0 =>
      match readToken position last? c rest with
      | .error error => .error error
      | .ok (token, taken) => (tokensFrom taken (position + 1) (some c) rest).map (token :: ·)

/-- The pattern that a text writes. -/
def ofText (text : Text) : Except GlobError GlobPattern := (tokensFrom 0 0 none text).map (⟨·⟩)

/-- Whether a text holds a star or a question mark. -/
def hasWildcard (text : Text) : Bool := text.any fun c => c == '*' || c == '?'

/-- A text as a pattern that stands for itself. -/
def escape (text : Text) : Text :=
  text.flatMap fun c => if c ∈ ['?', '*', '[', ']'] then ['[', c, ']'] else [c]

/-- The outcome of a match. A text that ends before the pattern rules out a match altogether. -/
inductive Verdict where
  | matched
  | mismatched
  | exhausted
  deriving DecidableEq, Repr

/-- Whether a token that stands for one character accepts it. -/
def acceptsChar (token : GlobToken) (c : Char) : Bool :=
  match token with
  | .literal a => a == c
  | .anyChar => true
  | .oneOf items => items.any (·.accepts c)
  | .noneOf items => !items.any (·.accepts c)
  | .anyText => false
  | .anyDirectories => false

/-- Tries `next` behind each character of a text, or behind each slash; `none` if all mismatch. -/
def retry (next : Text → Verdict) (onlySlash : Bool) : Text → Option Verdict
  | [] => none
  | c :: rest =>
    if onlySlash ∧ c ≠ '/' then retry next onlySlash rest
    else
      match next rest with
      | .mismatched => retry next onlySlash rest
      | verdict => some verdict

/-- Matches tokens against a text. A wildcard that has run through the text goes on at its end. -/
def run : List GlobToken → Text → Verdict
  | [], text => if text = [] then .matched else .mismatched
  | token :: more, text =>
    if token = .anyText ∨ token = .anyDirectories then
      match run more text with
      | .mismatched =>
        match retry (run more) (token == .anyDirectories) text with
        | some verdict => verdict
        | none => run more []
      | verdict => verdict
    else
      match text with
      | [] => .exhausted
      | c :: rest => if acceptsChar token c then run more rest else .mismatched

/-- Whether a pattern matches a text. -/
def accepts (pattern : GlobPattern) (text : Text) : Bool := run pattern.tokens text == .matched

/-- The text of a pattern that has no wildcards and sets. -/
def literal? (pattern : GlobPattern) : Option Text :=
  pattern.tokens.mapM fun token =>
    match token with
    | .literal c => some c
    | _ => none

/-- Whether a pattern stands for directories at any depth. -/
def isRecursive (pattern : GlobPattern) : Bool := pattern.tokens.contains .anyDirectories

end GlobPattern

end MessageKeys
