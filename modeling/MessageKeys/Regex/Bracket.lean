import MessageKeys.Regex.Escape

/-!
Sets of characters in brackets.

Between brackets stand characters, ranges, escapes, named sets and further brackets, which are put
together, and operators between such unions: `&&` for what both have, `--` for what only the left
one has, `~~` for what one of them has. Operators are taken from left to right. Letter case is left
out of account in the operands of an operator and where a bracket closes, before the bracket is
negated.
-/
namespace MessageKeys.Regex

/-- The named sets of ASCII characters. -/
def namedSet? (name : String) : Option CodeRanges :=
  match name with
  | "alnum" => some [(0x30, 0x39), (0x41, 0x5A), (0x61, 0x7A)]
  | "alpha" => some [(0x41, 0x5A), (0x61, 0x7A)]
  | "ascii" => some [(0x00, 0x7F)]
  | "blank" => some [(0x09, 0x09), (0x20, 0x20)]
  | "cntrl" => some [(0x00, 0x1F), (0x7F, 0x7F)]
  | "digit" => some asciiDigits
  | "graph" => some [(0x21, 0x7E)]
  | "lower" => some [(0x61, 0x7A)]
  | "print" => some [(0x20, 0x7E)]
  | "punct" => some [(0x21, 0x2F), (0x3A, 0x40), (0x5B, 0x60), (0x7B, 0x7E)]
  | "space" => some asciiBlanks
  | "upper" => some [(0x41, 0x5A)]
  | "word" => some asciiWords
  | "xdigit" => some [(0x30, 0x39), (0x41, 0x46), (0x61, 0x66)]
  | _ => none

/-- Reads `[:name:]` or `[:^name:]`: the set of that name, and whether it is negated. -/
def readNamed? (text : Text) : Option (Taken (CodeRanges × Bool)) := do
  let rest ← Text.after? ['[', ':'] text
  let negated := rest.head? == some '^'
  let rest := if negated then rest.tail else rest
  let name := rest.takeWhile (· != ':')
  let rest ← Text.after? [':', ']'] (rest.dropWhile (· != ':'))
  let set ← namedSet? (String.ofList name)
  return ((set, negated), rest)

/-- Reads a character or an escape of a bracket. Where classes are those of ASCII, other characters
are refused. -/
def readItem? (flags : Flags) (text : Text) : Option (Taken Escape) := do
  let (item, rest) ←
    match text with
    | [] => none
    | '\\' :: rest => readEscape? flags rest
    | c :: rest => some (.literal c, rest)
  match item with
  | .literal c => if flags.unicode ∨ c.toNat < 128 then return (item, rest) else none
  | .set _ => return (item, rest)
  | .place _ => none

/-- The set that an item stands for by itself. -/
def Escape.toSet : Escape → CodeRanges
  | literal c => .single c.toNat
  | set ranges => ranges
  | place _ => []

/-- Reads a range or a single item of a bracket. A minus sign before another one or before the
closing bracket does not make a range. -/
def readRange? (flags : Flags) (text : Text) : Option (Taken CodeRanges) := do
  let (first, rest) ← readItem? flags text
  match flags.skip rest with
  | '-' :: after =>
    if flags.peek? after = some ']' ∨ flags.peek? after = some '-' then
      return (first.toSet, '-' :: after)
    else
      let (last, rest) ← readItem? flags (flags.skip after)
      match first, last with
      | .literal low, .literal high =>
        if low ≤ high then return ([(low.toNat, high.toNat)], rest) else none
      | _, _ => none
  | rest => return (first.toSet, rest)

/-- An operator between unions. -/
inductive SetOperator where
  | inter
  | difference
  | symmetricDifference
  deriving DecidableEq, Repr

def SetOperator.apply : SetOperator → CodeRanges → CodeRanges → CodeRanges
  | inter, a, b => a.inter b
  | difference, a, b => a.difference b
  | symmetricDifference, a, b => a.symmetricDifference b

/-- Reads an operator. -/
def readOperator? : Text → Option (Taken SetOperator)
  | '&' :: '&' :: rest => some (.inter, rest)
  | '-' :: '-' :: rest => some (.difference, rest)
  | '~' :: '~' :: rest => some (.symmetricDifference, rest)
  | _ => none

/-- A set and how deep its syntax is nested. -/
structure NestedSet where
  ranges : CodeRanges
  depth : Nat
  deriving DecidableEq, Repr

/-- A bracket that is being read. -/
structure OpenBracket where
  negated : Bool
  /-- The left side of an operator that waits for its right side. -/
  left? : Option (SetOperator × NestedSet)
  /-- The union that is being read, with the depth of its deepest item. -/
  items : NestedSet
  /-- The number of its items. -/
  count : Nat
  deriving DecidableEq, Repr

namespace OpenBracket

/-- A bracket with one more item. -/
def push (bracket : OpenBracket) (item : NestedSet) : OpenBracket :=
  { bracket with
    items := ⟨bracket.items.ranges.union item.ranges, max bracket.items.depth item.depth⟩
    count := bracket.count + 1 }

/-- What has been read so far. A union of several items is nested one deeper than they are, and so
is what an operator makes. -/
def value (flags : Flags) (bracket : OpenBracket) : NestedSet :=
  let union : NestedSet :=
    if 2 ≤ bracket.count then ⟨bracket.items.ranges, bracket.items.depth + 1⟩ else bracket.items
  match bracket.left? with
  | none => union
  | some (operator, left) =>
    ⟨operator.apply (flags.foldCase left.ranges) (flags.foldCase union.ranges),
      max left.depth union.depth + 1⟩

/-- The bracket after an operator. -/
def operate (flags : Flags) (bracket : OpenBracket) (operator : SetOperator) : OpenBracket :=
  ⟨bracket.negated, some (operator, bracket.value flags), ⟨[], 0⟩, 0⟩

/-- The set of a bracket that has been closed. -/
def close? (flags : Flags) (bracket : OpenBracket) : Option NestedSet := do
  let inner := bracket.value flags
  return ⟨← flags.negate? bracket.negated (flags.foldCase inner.ranges), inner.depth + 1⟩

end OpenBracket

/-- Reads minus signs that stand for themselves; each is an item of its own. -/
def readSigns (flags : Flags) : Nat → OpenBracket → Text → Taken OpenBracket
  | fuel + 1, bracket, '-' :: rest =>
    readSigns flags fuel (bracket.push ⟨.single '-'.toNat, 0⟩) (flags.skip rest)
  | _, bracket, text => (bracket, text)

/-- Reads what a bracket begins with: a caret that negates it, then minus signs, or else a closing
bracket, that stand for themselves. -/
def openBracket (flags : Flags) (text : Text) : Taken OpenBracket :=
  let start := flags.skip text
  let negated := start.head? == some '^'
  let rest := if negated then flags.skip start.tail else start
  let (bracket, rest) := readSigns flags rest.length ⟨negated, none, ⟨[], 0⟩, 0⟩ rest
  match bracket.count, rest with
  | 0, ']' :: rest => (bracket.push ⟨.single ']'.toNat, 0⟩, rest)
  | _, rest => (bracket, rest)

/-- Reads a bracket to its end. `outer` are the brackets it stands in. Each round takes at least one
character, which bounds the rounds. -/
def readBracketFrom? (flags : Flags) :
    Nat → OpenBracket → List OpenBracket → Text → Option (Taken NestedSet)
  | 0, _, _, _ => none
  | fuel + 1, bracket, outer, text =>
    let text := flags.skip text
    match readOperator? text, readNamed? text with
    | some (operator, rest), _ =>
      readBracketFrom? flags fuel (bracket.operate flags operator) outer rest
    | none, some ((set, negated), rest) => do
      let set ← flags.negate? negated (flags.foldCase set)
      readBracketFrom? flags fuel (bracket.push ⟨set, 0⟩) outer rest
    | none, none =>
      match text with
      | [] => none
      | '[' :: rest =>
        let (inner, rest) := openBracket flags rest
        readBracketFrom? flags fuel inner (bracket :: outer) rest
      | ']' :: rest => do
        let set ← bracket.close? flags
        match outer with
        | [] => return (set, rest)
        | parent :: grand => readBracketFrom? flags fuel (parent.push set) grand rest
      | text => do
        let (set, rest) ← readRange? flags text
        readBracketFrom? flags fuel (bracket.push ⟨set, 0⟩) outer rest

/-- Reads a bracket; `text` follows the opening one. -/
def readBracket? (flags : Flags) (text : Text) : Option (Taken NestedSet) :=
  let (bracket, rest) := openBracket flags text
  readBracketFrom? flags (rest.length + 1) bracket [] rest

end MessageKeys.Regex
