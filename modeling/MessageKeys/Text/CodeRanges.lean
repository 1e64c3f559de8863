/-!
Sets of characters given by ranges of code points.

The ranges of a set are disjoint, in increasing order, and have both ends included, so
`CodeRanges.has` stops at the first range that begins after the code point it looks for. Union and
complement give such lists again, and the other operations are made of these two. Surrogates are no
characters: a complement has none of them.
-/
namespace MessageKeys

/-- Disjoint ranges of code points in increasing order, both ends included. -/
abbrev CodeRanges := List (Nat × Nat)

namespace CodeRanges

/-- Whether a code point lies in one of the ranges. -/
def has : CodeRanges → Nat → Bool
  | [], _ => false
  | (low, high) :: rest, n => if n < low then false else if n ≤ high then true else has rest n

/-- The set of one code point. -/
def single (n : Nat) : CodeRanges := [(n, n)]

/-- The code points that are no characters. -/
def surrogates : CodeRanges := [(0xD800, 0xDFFF)]

/-- All characters. -/
def everyChar : CodeRanges := [(0, 0xD7FF), (0xE000, 0x10FFFF)]

/-- Joins the ranges of a list that overlap or touch, where `(low, high)` comes before them and all
are in increasing order of their low ends. -/
def joinFrom (low high : Nat) : CodeRanges → CodeRanges
  | [] => [(low, high)]
  | (a, b) :: rest =>
    if a ≤ high + 1 then joinFrom low (max high b) rest else (low, high) :: joinFrom a b rest

/-- Joins ranges that are in increasing order of their low ends. -/
def joined : CodeRanges → CodeRanges
  | [] => []
  | (low, high) :: rest => joinFrom low high rest

/-- The set that ranges in any order cover. -/
def ofList (ranges : List (Nat × Nat)) : CodeRanges :=
  joined (ranges.mergeSort fun a b => a.1 ≤ b.1)

def union (a b : CodeRanges) : CodeRanges := joined (a.merge b fun x y => x.1 ≤ y.1)

/-- The code points from `low` on that lie between the ranges or behind them. -/
def gapsFrom (low : Nat) : CodeRanges → CodeRanges
  | [] => if low ≤ 0x10FFFF then [(low, 0x10FFFF)] else []
  | (a, b) :: rest =>
    if low < a then (low, a - 1) :: gapsFrom (b + 1) rest else gapsFrom (b + 1) rest

/-- All characters that are not in the set. -/
def complement (a : CodeRanges) : CodeRanges := gapsFrom 0 (a.union surrogates)

def inter (a b : CodeRanges) : CodeRanges := complement (a.complement.union b.complement)

def difference (a b : CodeRanges) : CodeRanges := a.inter b.complement

/-- The characters that are in one of the two sets only. -/
def symmetricDifference (a b : CodeRanges) : CodeRanges := (a.difference b).union (b.difference a)

/-- Whether all code points are ASCII. -/
def isAscii (a : CodeRanges) : Bool := a.all fun range => range.2 < 128

/-- The only code point of a set that has one. -/
def only? : CodeRanges → Option Nat
  | [(low, high)] => if low = high then some low else none
  | _ => none

end CodeRanges

end MessageKeys
