import MessageKeys.Regex.Basic

/-!
Programs of a matching machine.

A program is a table of steps, each of which names the states to go on with. `Program.ofRegex`
writes the steps of an expression from its end to its beginning: every part is written for the state
that follows it. A loop is written as one round and then a choice between another round and the
state that follows; without a first round it has one more choice before it. So an empty round comes
to the second choice, where the beginning of the round has been reached already, and the loop is
left.

Only the first group is marked, since that is where a pattern puts the message key.
-/
namespace MessageKeys.Regex

/-- What a machine does in a state. -/
inductive Step where
  /-- Takes a character of a set. -/
  | take (accepted : CodeRanges) (next : Nat)
  /-- Goes on where a condition holds. -/
  | check (condition : Anchor) (next : Nat)
  /-- Goes on in two ways, the first being preferred. -/
  | fork (first second : Nat)
  /-- Notes the beginning of the group's text. -/
  | groupStart (next : Nat)
  /-- Notes the end of the group's text. -/
  | groupStop (next : Nat)
  /-- A match ends here. -/
  | done
  deriving DecidableEq, Repr

/-- The steps by their states, and the first state. -/
structure Program where
  steps : Array Step
  start : Nat
  deriving DecidableEq, Repr

namespace Program

/-- Writes steps that go on with a state; the result's start is where they begin. -/
abbrev Writer := Nat → Array Step → Program

/-- Writes one step. -/
def add (step : Step) (steps : Array Step) : Program :=
  let start := steps.size
  ⟨steps.push step, start⟩

/-- A choice between two states, the first of which a greedy expression prefers. -/
def choice (greedy : Bool) (more enough : Nat) : Step :=
  if greedy then .fork more enough else .fork enough more

/-- Several copies one after another. -/
def copies (body : Writer) : Nat → Writer
  | 0, next, steps => ⟨steps, next⟩
  | n + 1, next, steps =>
    let written := body next steps
    copies body n written.start written.steps

/-- Up to so many copies, where `exit` follows the last one made. -/
def optional (body : Writer) (greedy : Bool) (exit : Nat) : Nat → Writer
  | 0, next, steps => ⟨steps, next⟩
  | n + 1, next, steps =>
    let written := body next steps
    let chosen := add (choice greedy written.start exit) written.steps
    optional body greedy exit n chosen.start chosen.steps

/-- One or more rounds. -/
def loop (body : Writer) (greedy : Bool) : Writer := fun next steps =>
  let again := steps.size
  let written := body again (steps.push .done)
  ⟨written.steps.setIfInBounds again (choice greedy written.start next), written.start⟩

/-- The steps of an expression. -/
def write : Regex → Writer
  | empty, next, steps => ⟨steps, next⟩
  | char accepted, next, steps => add (.take accepted next) steps
  | anchor condition, next, steps => add (.check condition next) steps
  | seq first second, next, steps =>
    let behind := write second next steps
    write first behind.start behind.steps
  | alt first second, next, steps =>
    let other := write second next steps
    let preferred := write first next other.steps
    add (.fork preferred.start other.start) preferred.steps
  | repeated body least most? greedy, next, steps =>
    match least, most? with
    | 0, none =>
      let looped := loop (write body) greedy next steps
      add (choice greedy looped.start next) looped.steps
    | n + 1, none =>
      let looped := loop (write body) greedy next steps
      copies (write body) n looped.start looped.steps
    | n, some most =>
      let more := optional (write body) greedy next (most - n) next steps
      copies (write body) n more.start more.steps
  | group index body, next, steps =>
    if index = 1 then
      let stop := add (.groupStop next) steps
      let inner := write body stop.start stop.steps
      add (.groupStart inner.start) inner.steps
    else write body next steps

/-- The program of an expression. -/
def ofRegex (regex : Regex) : Program := write regex 0 #[.done]

end Program

end MessageKeys.Regex
