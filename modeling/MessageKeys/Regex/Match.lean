import MessageKeys.Regex.Program
import MessageKeys.Text.Basic
import Std.Data.HashSet

/-!
Matching: the leftmost match of a text, and all matches one after another.

A machine goes through the text once and follows all ways to match side by side, as threads in order
of preference. Where two threads meet in a state, the preferred one goes on and the other is given
up, since from there on both can do the same; so the work for a character is bounded by the size of
the program. A match that is found gives up the threads that come after it.

`Regex.findAll` goes through a text from left to right; after a match it goes on behind it, and an
empty match is left out where another match just ended.
-/
namespace MessageKeys

/-- A text and the byte position at which it stands. -/
structure Capture where
  start : Nat
  text : Text
  deriving DecidableEq, Repr

namespace Regex

/-- A way to match that is being followed; its places are counted in characters. -/
structure Thread where
  state : Nat
  /-- Where the match began. -/
  start : Nat
  /-- Where the group began last. -/
  opened : Nat
  /-- What the group has kept. -/
  kept? : Option (Nat × Nat)
  deriving DecidableEq, Repr

/-- A match: where it begins and ends, and what the group has kept. -/
structure Match where
  start : Nat
  stop : Nat
  kept? : Option (Nat × Nat)
  deriving DecidableEq, Repr

/-- A place in a text: the character before it, and how many characters and bytes stand before it.
-/
structure Place where
  last? : Option Char
  index : Nat
  offset : Nat
  deriving DecidableEq, Repr

namespace Place

/-- The place at the beginning of a text. -/
def first : Place := ⟨none, 0, 0⟩

/-- The place behind a character. -/
def after (place : Place) (c : Char) : Place := ⟨some c, place.index + 1, place.offset + c.utf8Size⟩

/-- The part of a text between two places, which are counted in characters; `text` stands at
`place`, which is not behind them. -/
def capture (place : Place) (text : Text) (start stop : Nat) : Capture :=
  let skipped := start - place.index
  ⟨place.offset + Text.size (text.take skipped), (text.drop skipped).take (stop - start)⟩

end Place

/-- Follows threads through the states that take no character, and adds those that wait for one, or
have matched, to `ready`. States in `seen` have been reached by preferred threads. Each round drops
a thread or reaches a new state with at most two threads more, which bounds the rounds. -/
def follow (program : Program) (place : Place) (next? : Option Char) :
    Nat → List Thread → Std.HashSet Nat → Array Thread → Array Thread
  | 0, _, _, ready => ready
  | _ + 1, [], _, ready => ready
  | fuel + 1, thread :: rest, seen, ready =>
    if seen.contains thread.state then follow program place next? fuel rest seen ready
    else
      let seen := seen.insert thread.state
      match program.steps[thread.state]? with
      | none => follow program place next? fuel rest seen ready
      | some (.take _ _) => follow program place next? fuel rest seen (ready.push thread)
      | some .done => follow program place next? fuel rest seen (ready.push thread)
      | some (.check condition next) =>
        if condition.holds place.last? next? then
          follow program place next? fuel ({ thread with state := next } :: rest) seen ready
        else follow program place next? fuel rest seen ready
      | some (.fork first second) =>
        follow program place next? fuel
          ({ thread with state := first } :: { thread with state := second } :: rest) seen ready
      | some (.groupStart next) =>
        follow program place next? fuel
          ({ thread with state := next, opened := place.index } :: rest) seen ready
      | some (.groupStop next) =>
        follow program place next? fuel
          ({ thread with state := next, kept? := some (thread.opened, place.index) } :: rest) seen
          ready

/-- Lets threads take a character, in order of preference, up to the first that has matched. Returns
the threads behind the character, added to `moved`, and the match. -/
def advance (program : Program) (place : Place) (next? : Option Char) (best? : Option Match) :
    List Thread → Array Thread → Array Thread × Option Match
  | [], moved => (moved, best?)
  | thread :: rest, moved =>
    match program.steps[thread.state]? with
    | some .done => (moved, some ⟨thread.start, place.index, thread.kept?⟩)
    | some (.take accepted next) =>
      if next?.any fun c => accepted.has c.toNat then
        advance program place next? best? rest (moved.push { thread with state := next })
      else advance program place next? best? rest moved
    | _ => advance program place next? best? rest moved

/-- The leftmost match from a place on, where `threads` are being followed and `best?` has been
found. As long as nothing has been found, a match may also begin at each place. -/
def search (program : Program) (place : Place) (threads : List Thread) (best? : Option Match)
    (text : Text) : Option Match :=
  let fresh : List Thread := if best?.isNone then [⟨program.start, place.index, 0, none⟩] else []
  let waiting := threads ++ fresh
  let fuel := waiting.length + 2 * program.steps.size + 1
  let ready := follow program place text.head? fuel waiting ∅ #[]
  let (moved, best?) := advance program place text.head? best? ready.toList #[]
  match text with
  | [] => best?
  | c :: rest =>
    if moved.isEmpty && best?.isSome then best?
    else search program (place.after c) moved.toList best? rest

/-- What the group kept in each match from a place on; `ended` tells that a match has just ended
there. Each round comes to a later place or leaves one where a match has ended, which bounds the
rounds. -/
def findFrom (program : Program) : Nat → Place → Bool → Text → List (Option Capture)
  | 0, _, _, _ => []
  | fuel + 1, place, ended, text =>
    match search program place [] none text with
    | none => []
    | some found =>
      if ended ∧ found.stop = place.index then
        match text with
        | [] => []
        | c :: rest => findFrom program fuel (place.after c) false rest
      else
        let kept? := found.kept?.map fun (start, stop) => place.capture text start stop
        let passed := text.take (found.stop - place.index)
        kept? :: findFrom program fuel (passed.foldl Place.after place) true
          (text.drop (found.stop - place.index))

/-- What the first group kept in each match, left to right. -/
def findAll (regex : Regex) (text : Text) : List (Option Capture) :=
  findFrom (.ofRegex regex) (2 * text.length + 2) .first false text

end Regex

end MessageKeys
