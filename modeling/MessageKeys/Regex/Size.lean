import MessageKeys.Regex.Basic
import MessageKeys.Regex.Layout
import MessageKeys.Text.Utf8Ranges

/-!
How much memory the automaton of an expression takes.

An expression is refused when the automaton over bytes that it describes would take more than ten
mebibytes, read in either direction. Repetitions are written out, so counts multiply.

Forward, the states of a set of characters are shared wherever the bytes that may follow are the
same. Backward, they are shared where the bytes that come before are the same. Alternatives that are
texts form a tree.
-/
namespace MessageKeys.Regex

/-- The direction in which an automaton reads. -/
inductive Direction where
  | forward
  | backward
  deriving DecidableEq, Repr

/-- Sequences with a common first range, put together in order: the range with what follows it. -/
def groupByFirst : List Text.ByteRanges → List ((Nat × Nat) × List Text.ByteRanges)
  | [] => []
  | [] :: more => groupByFirst more
  | (range :: behind) :: more =>
    match groupByFirst more with
    | (next, tails) :: groups =>
      if range = next then (range, behind :: tails) :: groups
      else (range, [behind]) :: (next, tails) :: groups
    | [] => [(range, [behind])]

/-- The places for states that are shared forward. -/
def forwardPlaces : Nat := 10000

/-- The places for states that are shared backward. -/
def backwardPlaces : Nat := 1000

/-- The number of the first state for sequences of at most `length` ranges that lead to the state
`stop`, and the automaton with their states. A state is made after all those behind it. -/
def forwardStates? (stop : Nat) :
    (length : Nat) → List Text.ByteRanges → SharedLayout → Option (Nat × SharedLayout)
  | 0, _, shared => some (stop, shared)
  | length + 1, sequences, shared => do
    let groups := groupByFirst sequences
    let (key, shared) ← groups.foldlM (fun (key, shared) ((low, high), tails) => do
      let (next, shared) ←
        if tails.all List.isEmpty then some (stop, shared)
        else forwardStates? stop length tails shared
      return (next :: high :: low :: key, shared)) (([] : StateKey), shared)
    shared.state? forwardPlaces key.reverse groups.length

/-- The number of the last state for a sequence of ranges that is read from its end and leads to the
state `stop`, and the automaton with the sequence's states. -/
def backwardStates? (stop : Nat) :
    Text.ByteRanges → SharedLayout → Option (Nat × SharedLayout)
  | [], shared => some (stop, shared)
  | (low, high) :: more, shared => do
    let (state, shared) ← shared.state? backwardPlaces [stop, low, high] 0
    backwardStates? state more shared

/-- The bytes of a text's encoding that has one character. -/
def encodedSize (n : Nat) : Nat :=
  if n < 0x80 then 1 else if n < 0x800 then 2 else if n < 0x10000 then 3 else 4

/-- The automaton with a set of characters. -/
def setLayout? (direction : Direction) (set : CodeRanges) (layout : Layout) : Option Layout :=
  match set.only? with
  | some n => layout.addStates? (encodedSize n)
  | none =>
    if set.isAscii then do (← layout.addStates? 1).addRanges? set.length
    else
      match direction with
      | .forward => do
        let stop := layout.states
        let (_, shared) ← forwardStates? stop 4 set.encoded ⟨← layout.addStates? 1, ∅⟩
        return shared.layout
      | .backward => do
        let stop := layout.states + 1
        let shared ← set.encoded.foldlM (fun shared sequence => do
          let (_, shared) ← backwardStates? stop sequence shared
          return ⟨← shared.layout.addWays? 1, shared.known⟩) ⟨← layout.addStates? 2, ∅⟩
        return shared.layout

/-- The least length of a match in characters; `none` if there is no match. -/
def leastLength? : Regex → Option Nat
  | empty => some 0
  | char accepted => if accepted.isEmpty then none else some 1
  | anchor _ => some 0
  | seq first second => do return (← first.leastLength?) + (← second.leastLength?)
  | alt first second => do return min (← first.leastLength?) (← second.leastLength?)
  | repeated body least _ _ => body.leastLength?.map (least * ·)
  | group _ body => body.leastLength?

/-- The encoding of an expression that is a text. -/
def literal? : Regex → Option Text.ByteRanges
  | char accepted => accepted.only?.bind fun n => (CodeRanges.single n).encoded.head?
  | seq first second => do return (← first.literal?) ++ (← second.literal?)
  | _ => none

/-- Texts that begin with one of the bytes, each byte once, with what follows it. -/
def tailsByFirst (texts : List Text.ByteRanges) : List (List Text.ByteRanges) :=
  let firsts := (texts.filterMap List.head?).eraseDups
  firsts.map fun first => texts.filterMap fun text =>
    match text with
    | [] => none
    | byte :: tail => if byte = first then some tail else none

/-- The texts between those that end here. Before the first text that goes on, one end is enough. -/
def textsBetweenEnds (texts : List Text.ByteRanges) : List (List Text.ByteRanges) :=
  let texts := match texts with
    | [] :: more => [] :: more.dropWhile List.isEmpty
    | _ => texts
  texts.splitOnP List.isEmpty

/-- The automaton with a tree of texts that have at most `length` bytes. Where a text ends that
others go on from, the texts before it and those after it are kept apart. -/
def treeLayout? : (length : Nat) → List Text.ByteRanges → Layout → Option Layout
  | 0, _, layout => some layout
  | length + 1, texts, layout => do
    let parts := textsBetweenEnds texts
    let tails := (parts.filter fun part => !part.isEmpty).map tailsByFirst
    let layout ← (← layout.addStates? 1).addWays? (tails.length + (parts.length - 1))
    tails.foldlM (fun layout groups => do
      let layout ← layout.addRanges? (if groups.length = 1 then 0 else groups.length)
      groups.foldlM (fun layout tails =>
        if tails.all List.isEmpty then some layout else treeLayout? length tails layout)
          layout) layout

/-- The automaton with an alternation of texts. -/
def textsLayout? (direction : Direction) (texts : List Text.ByteRanges) (layout : Layout) :
    Option Layout := do
  let texts := if direction = .backward then texts.map List.reverse else texts
  let length := (texts.map List.length).foldl max 0
  treeLayout? length texts (← layout.addStates? 1)

mutual

/-- The automaton with an expression. -/
def layout? (direction : Direction) : Regex → Layout → Option Layout
  | empty, layout => layout.addStates? 1
  | char accepted, layout => setLayout? direction accepted layout
  | anchor _, layout => layout.addStates? 1
  | seq first second, layout =>
    match direction with
    | .forward => (first.layout? direction layout).bind (second.layout? direction)
    | .backward => (second.layout? direction layout).bind (first.layout? direction)
  | alt first second, layout =>
    match (first.branches ++ second.branches).mapM literal? with
    | some texts => textsLayout? direction texts layout
    | none => (first.layout? direction layout).bind (second.branchLayouts? direction true)
  | repeated body least most? _, layout =>
    let round := body.layout? direction
    match least, most? with
    | 0, some 1 => do (← (← round (← layout.addStates? 1)).addStates? 1).addWays? 2
    | 0, none =>
      if body.leastLength?.any (0 < ·) then do (← round (← layout.addStates? 1)).addWays? 2
      else do (← (← round layout).addStates? 3).addWays? 4
    | n, none => do (← (← Layout.repeat? round n layout).addStates? 1).addWays? 2
    | n, some most => do
      let layout ← if n = 0 then layout.addStates? 1 else Layout.repeat? round n layout
      if n = most then some layout
      else
        let again (layout : Layout) : Option Layout := do
          (← round (← layout.addStates? 1)).addWays? 2
        Layout.repeat? again (most - n) (← layout.addStates? 1)
  | group _ body, layout =>
    match direction with
    | .forward => do (← body.layout? direction (← layout.addStates? 1)).addStates? 1
    | .backward => body.layout? direction layout

/-- The automaton with further alternatives. The states where the alternatives begin and end come
after the second one. -/
def branchLayouts? (direction : Direction) (isSecond : Bool) : Regex → Layout → Option Layout
  | alt first second, layout => do
    let layout ← first.layout? direction layout
    let layout ← if isSecond then (← layout.addStates? 2).addWays? 2 else layout.addWays? 1
    second.branchLayouts? direction false layout
  | regex, layout => do
    let layout ← regex.layout? direction layout
    if isSecond then (← layout.addStates? 2).addWays? 2 else layout.addWays? 1

end

/-- Whether every match begins at the start of the text, or, backward, ends at its end. -/
def isBound (direction : Direction) : Regex → Bool
  | anchor condition => condition == if direction = .forward then .textStart else .textEnd
  | seq first second =>
    if direction = .forward then
      first.isBound direction || (first.isEmptyOnly && second.isBound direction)
    else second.isBound direction || (second.isEmptyOnly && first.isBound direction)
  | alt first second => first.isBound direction && second.isBound direction
  | repeated body least _ _ => 0 < least && body.isBound direction
  | group _ body => body.isBound direction
  | _ => false

/-- The automaton of an expression. Where a match may begin anywhere, a lazy loop over all bytes
comes first. The expression as a whole is a group, and the match is a state of its own. -/
def automaton? (direction : Direction) (regex : Regex) : Option Layout := do
  let layout ←
    if regex.isBound direction then Layout.start.addStates? 1
    else do (← (← Layout.start.addStates? 2).addRanges? 1).addWays? 2
  (← (group 0 regex).layout? direction layout).addStates? 1

/-- Whether the automata of an expression are small enough in both directions. -/
def isSmall (regex : Regex) : Bool :=
  (regex.automaton? .forward).isSome && (regex.automaton? .backward).isSome

end MessageKeys.Regex
