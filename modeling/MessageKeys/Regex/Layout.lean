import Std.Data.HashMap

/-!
The memory of an automaton that is being made.

Every state of an automaton takes 32 bytes, 8 more for each range of bytes that it tells apart, and
4 more for each way that it chooses from. The states themselves are not kept: a `Layout` numbers
them in the order in which they are made and counts their bytes, as long as these stay within ten
mebibytes.

States that do the same are shared through a table with a fixed number of places. What a state does
decides its place, and a state that is put into a place drives out the one that was there, which is
then made again when it is needed again.
-/
namespace MessageKeys.Regex

/-- The bytes of a state. -/
def stateBytes : Nat := 32

/-- The bytes of a range that a state tells apart. -/
def rangeBytes : Nat := 8

/-- The bytes of a way that a state chooses from. -/
def wayBytes : Nat := 4

/-- The bytes that an automaton may take. -/
def sizeLimit : Nat := 10485760

/-- An automaton that is being made: the number of its states, and the bytes of their ranges and
ways. The next state gets the number of states as its own number. -/
structure Layout where
  states : Nat
  extra : Nat
  deriving DecidableEq, Repr

namespace Layout

/-- An automaton without states. -/
def start : Layout := ⟨0, 0⟩

/-- The bytes of the automaton. -/
def bytes (layout : Layout) : Nat := stateBytes * layout.states + layout.extra

/-- The automaton, if it is small enough. -/
def checked? (layout : Layout) : Option Layout :=
  if layout.bytes ≤ sizeLimit then some layout else none

/-- The automaton with so many more states. -/
def addStates? (layout : Layout) (count : Nat) : Option Layout :=
  checked? ⟨layout.states + count, layout.extra⟩

/-- The automaton with one more state, which tells so many ranges apart. -/
def addRanges? (layout : Layout) (count : Nat) : Option Layout :=
  checked? ⟨layout.states + 1, layout.extra + rangeBytes * count⟩

/-- The automaton with so many more ways from its states. -/
def addWays? (layout : Layout) (count : Nat) : Option Layout :=
  checked? ⟨layout.states, layout.extra + wayBytes * count⟩

/-- The automaton after so many equal steps. -/
def repeat? (step : Layout → Option Layout) : Nat → Layout → Option Layout
  | 0, layout => some layout
  | count + 1, layout =>
    match step layout with
    | some layout => repeat? step count layout
    | none => none

end Layout

/-- What a state does: its ranges and the numbers of the states behind them, in a fixed order. -/
abbrev StateKey := List Nat

/-- The place of a state in a table of `size` places. The numbers are mixed one after another into
a word of 64 bits. -/
def StateKey.place (size : Nat) (key : StateKey) : Nat :=
  let mix (hash : UInt64) (n : Nat) : UInt64 := (hash ^^^ n.toUInt64) * 1099511628211
  (key.foldl mix 14695981039346656037).toNat % size

/-- An automaton with a table of its states, by their places. -/
structure SharedLayout where
  layout : Layout
  known : Std.HashMap Nat (StateKey × Nat)

namespace SharedLayout

/-- The number of a state that the table still has. -/
def find? (shared : SharedLayout) (place : Nat) (key : StateKey) : Option Nat :=
  match shared.known[place]? with
  | some (other, state) => if other = key then some state else none
  | none => none

/-- The number of the state that does as `key` says, and the automaton with that state, which is a
new one with so many ranges unless the table of `size` places has it. -/
def state? (shared : SharedLayout) (size : Nat) (key : StateKey) (ranges : Nat) :
    Option (Nat × SharedLayout) :=
  let place := key.place size
  match shared.find? place key with
  | some state => some (state, shared)
  | none => do
    let state := shared.layout.states
    let layout ← shared.layout.addRanges? ranges
    return (state, ⟨layout, shared.known.insert place (key, state)⟩)

end SharedLayout

end MessageKeys.Regex
