import MessageKeys.Regex.Size
import MessageKeys.Regex.Token

/-!
From a pattern to its tree.

The open groups form a stack. A group holds the alternatives that are complete, the items of the
current one, and the flags that hold from here on; the flags of the group around it come back when
it is closed. A repetition takes the item before it, and is refused where there is none.

A pattern whose parts are nested more than 250 deep is refused, and so is one whose automaton would
be too large.
-/
namespace MessageKeys.Regex

/-- A part of a pattern and how deep its syntax is nested; `none` for a change of flags. -/
structure Part where
  regex? : Option Regex
  depth : Nat
  deriving DecidableEq, Repr

/-- Parts as one: several are nested one deeper than the deepest of them. -/
def Part.depthOf : List Part → Nat
  | [] => 0
  | [only] => only.depth
  | parts => (parts.map Part.depth).foldl max 0 + 1

/-- A group that is still open. -/
structure Frame where
  /-- The number of the group if it keeps its text. -/
  index? : Option Nat
  /-- Complete alternatives, last one first. -/
  alternatives : List Part
  /-- Parts of the current alternative, last one first. -/
  items : List Part
  flags : Flags
  deriving DecidableEq, Repr

namespace Frame

/-- A group that has just been opened. -/
def opened (index? : Option Nat) (flags : Flags) : Frame := ⟨index?, [], [], flags⟩

/-- The current alternative as one part. -/
def current (frame : Frame) : Part :=
  ⟨some (concat (frame.items.reverse.filterMap Part.regex?)), Part.depthOf frame.items⟩

/-- The group without its parentheses. -/
def body (frame : Frame) : Part :=
  let alternatives := (frame.current :: frame.alternatives).reverse
  ⟨some (oneOf (alternatives.filterMap Part.regex?)), Part.depthOf alternatives⟩

/-- The group with its parentheses. -/
def closed (frame : Frame) : Part :=
  let body := frame.body
  match frame.index? with
  | some index => ⟨body.regex?.map (group index), body.depth + 1⟩
  | none => ⟨body.regex?, body.depth + 1⟩

def push (frame : Frame) (part : Part) : Frame := { frame with items := part :: frame.items }

/-- The frame with its last item repeated. -/
def repeatLast? (frame : Frame) (least : Nat) (most? : Option Nat) (greedy : Bool) : Option Frame :=
  match frame.items with
  | ⟨some regex, depth⟩ :: before =>
    let greedy := greedy != frame.flags.swapGreed
    some { frame with items := ⟨some (regex.times least most? greedy), depth + 1⟩ :: before }
  | _ => none

end Frame

/-- A pattern that has been read so far: the innermost open group, the groups around it, the number
of groups that keep their text, and the names given. -/
structure Progress where
  frame : Frame
  outer : List Frame
  groups : Nat
  names : List Text
  deriving DecidableEq, Repr

namespace Progress

def start : Progress := ⟨.opened none .start, [], 0, []⟩

/-- The progress after one more token. -/
def step? (progress : Progress) : Token → Option Progress
  | .one set =>
    some { progress with frame := progress.frame.push ⟨some (char set.ranges), set.depth⟩ }
  | .anchor condition =>
    some { progress with frame := progress.frame.push ⟨some (anchor condition), 0⟩ }
  | .bar =>
    let frame := progress.frame
    some { progress with
      frame := { frame with alternatives := frame.current :: frame.alternatives, items := [] } }
  | .openCapture name? =>
    let names := name?.toList ++ progress.names
    if names.Nodup then
      some { frame := .opened (some (progress.groups + 1)) progress.frame.flags
             outer := progress.frame :: progress.outer
             groups := progress.groups + 1
             names }
    else none
  | .openPlain change =>
    some { progress with
      frame := .opened none (change.apply progress.frame.flags)
      outer := progress.frame :: progress.outer }
  | .setFlags change =>
    let frame := progress.frame
    some { progress with
      frame := { frame.push ⟨none, 0⟩ with flags := change.apply frame.flags } }
  | .close =>
    match progress.outer with
    | [] => none
    | parent :: outer => some { progress with frame := parent.push progress.frame.closed, outer }
  | .times least most? greedy =>
    (progress.frame.repeatLast? least most? greedy).map fun frame => { progress with frame }

/-- The progress at the end of a text. Each round takes at least one character, which bounds the
rounds. -/
def readAll? : Nat → Progress → Text → Option Progress
  | 0, _, _ => none
  | fuel + 1, progress, text =>
    match progress.frame.flags.skip text with
    | [] => some progress
    | c :: rest => do
      let (token, rest) ← readToken? progress.frame.flags c rest
      readAll? fuel (← progress.step? token) rest

end Progress

/-- How deep the parts of a pattern may be nested. -/
def depthLimit : Nat := 250

/-- The expression that a pattern writes, if it is one. -/
def ofText? (pattern : Text) : Option Regex := do
  let progress ← Progress.readAll? (pattern.length + 1) .start pattern
  let body := progress.frame.body
  let regex ← body.regex?
  if progress.outer = [] ∧ body.depth ≤ depthLimit ∧ regex.isSmall then some regex else none

end MessageKeys.Regex
