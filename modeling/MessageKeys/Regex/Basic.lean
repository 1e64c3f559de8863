import MessageKeys.Text.Word

/-!
Regular expressions: their trees, and the conditions on places at the leaves.

The dialect has sets of characters, groups, alternation, counted and lazy repetition, anchors, word
boundaries and flags, and no look-around or back-references. Flags do not occur in the trees: the
reader of patterns resolves them into sets and anchors.
-/
namespace MessageKeys

/-- A place with respect to the words beside it. -/
inductive WordPlace where
  /-- Between a character of a word and one that is none. -/
  | boundary
  | noBoundary
  /-- Before the first character of a word. -/
  | start
  /-- Behind the last character of a word. -/
  | stop
  /-- Not behind a character of a word. -/
  | startHalf
  /-- Not before a character of a word. -/
  | stopHalf
  deriving DecidableEq, Repr

/-- Whether a place is as described, given whether the characters before and after it are of words.
-/
def WordPlace.holds (before after : Bool) : WordPlace → Bool
  | boundary => before != after
  | noBoundary => before == after
  | start => !before && after
  | stop => before && !after
  | startHalf => !before
  | stopHalf => !after

/-- A condition on the place between two characters. -/
inductive Anchor where
  | textStart
  | textEnd
  /-- After a line break, or at the start of the text. -/
  | lineStart
  | lineEnd
  /-- As `lineStart`, where a carriage return ends a line too and is not parted from a line feed. -/
  | returnStart
  | returnEnd
  | word (place : WordPlace)
  /-- As `word`, where only ASCII characters are of words. -/
  | asciiWord (place : WordPlace)
  deriving DecidableEq, Repr

namespace Anchor

/-- Whether the condition holds between `last?`, the character before the place, and `next?`, the
one after it. -/
def holds (anchor : Anchor) (last? next? : Option Char) : Bool :=
  match anchor with
  | textStart => last?.isNone
  | textEnd => next?.isNone
  | lineStart => last?.all (· == '\n')
  | lineEnd => next?.all (· == '\n')
  | returnStart => last?.all fun last => last == '\n' || (last == '\r' && next? != some '\n')
  | returnEnd => next?.all fun next => next == '\r' || (next == '\n' && last? != some '\r')
  | word place => place.holds (last?.any Text.isWord) (next?.any Text.isWord)
  | asciiWord place => place.holds (last?.any Text.isAsciiWord) (next?.any Text.isAsciiWord)

end Anchor

/-- A regular expression. -/
inductive Regex where
  /-- The empty text. -/
  | empty
  /-- One character of a set. -/
  | char (accepted : CodeRanges)
  | anchor (condition : Anchor)
  | seq (first second : Regex)
  /-- The first alternative is preferred. -/
  | alt (first second : Regex)
  /-- From `least` to `most?` times; `none` is without limit. Greedy prefers more times to fewer. -/
  | repeated (body : Regex) (least : Nat) (most? : Option Nat) (greedy : Bool)
  /-- A group that keeps the text it matched. -/
  | group (index : Nat) (body : Regex)
  deriving DecidableEq, Repr

namespace Regex

/-- Whether the expression matches no text but the empty one. -/
def isEmptyOnly : Regex → Bool
  | empty => true
  | char _ => false
  | anchor _ => true
  | seq first second => first.isEmptyOnly && second.isEmptyOnly
  | alt first second => first.isEmptyOnly && second.isEmptyOnly
  | repeated body _ _ _ => body.isEmptyOnly
  | group _ body => body.isEmptyOnly

/-- The set of an expression that takes one character. -/
def charSet? : Regex → Option CodeRanges
  | char accepted => some accepted
  | _ => none

/-- The parts of an expression that stand one after another, in order. -/
def factors : Regex → List Regex
  | empty => []
  | seq first second => first.factors ++ second.factors
  | regex => [regex]

/-- Expressions one after another. -/
def concat (parts : List Regex) : Regex :=
  match (parts.flatMap factors).reverse with
  | [] => empty
  | last :: before => before.foldl (fun tail item => seq item tail) last

/-- The alternatives of an expression, in order. -/
def branches : Regex → List Regex
  | alt first second => first.branches ++ second.branches
  | regex => [regex]

/-- Whether an expression takes one certain character. -/
def isLetter (regex : Regex) : Bool := (regex.charSet?.bind CodeRanges.only?).isSome

/-- The parts of an expression that stand one after another, where letters that stand together form
one part. -/
def chunks (regex : Regex) : List (List Regex) :=
  regex.factors.splitBy fun a b => a.isLetter && b.isLetter

/-- What two lists begin with. -/
def commonBeginning : List (List Regex) → List (List Regex) → List (List Regex)
  | a :: as, b :: bs => if a = b then a :: commonBeginning as bs else []
  | _, _ => []

/-- What several alternatives all begin with, and the rest of each. Every alternative has several
parts. -/
def splitCommon? (alternatives : List Regex) : Option (List Regex × List Regex) :=
  let parts := alternatives.map chunks
  match parts with
  | first :: second :: more =>
    let common := (second :: more).foldl commonBeginning first
    if common.isEmpty || parts.any (·.length < 2) then none
    else some (common.flatten, parts.map fun chunks => concat (chunks.drop common.length).flatten)
  | _ => none

/-- One of several alternatives. Single characters are put together into a set, and so are sets; an
alternation of both kinds stays one. What all alternatives begin with stands before them, and their
rests are put together in the same way, at most `rounds` times. -/
def oneOfWithin : (rounds : Nat) → List Regex → Regex
  | rounds, alternatives =>
    let flat := alternatives.flatMap branches
    let sets := flat.filterMap charSet?
    let singles := sets.countP fun set => set.only?.isSome
    if sets.length = flat.length ∧ (singles = 0 ∨ singles = sets.length) then
      char (sets.foldl CodeRanges.union [])
    else
      match rounds, splitCommon? flat with
      | rounds + 1, some (common, rests) => concat (common ++ [oneOfWithin rounds rests])
      | _, _ =>
        match flat.reverse with
        | [] => empty
        | last :: before => before.foldl (fun tail item => alt item tail) last

/-- The number of parts of an expression, those inside parts included. -/
def weight : Regex → Nat
  | seq first second => first.weight + second.weight + 1
  | alt first second => first.weight + second.weight + 1
  | repeated body _ _ _ => body.weight + 1
  | group _ body => body.weight + 1
  | _ => 1

/-- One of several expressions, the earlier ones being preferred. Each time that a common beginning
is taken from the alternatives they lose weight, so their weight bounds the times. -/
def oneOf (alternatives : List Regex) : Regex :=
  oneOfWithin ((alternatives.map weight).foldl (· + ·) 0) alternatives

/-- An expression several times. What matches the empty text only is not needed more than once. -/
def times (body : Regex) (least : Nat) (most? : Option Nat) (greedy : Bool) : Regex :=
  let (least, most?) :=
    if body.isEmptyOnly then (min least 1, some (min (most?.getD 1) 1)) else (least, most?)
  if most? = some 0 then empty
  else if least = 1 ∧ most? = some 1 then body
  else repeated body least most? greedy

end Regex

end MessageKeys
