import Mathlib.Algebra.Ring.Nat
import MessageKeys.Reference.Automaton

/-!
How long the name of a method may be.

Making an automaton succeeds as long as the bytes that it takes stay within the limit. `Takes` says
that of one step, and steps are added up (`Takes.bind`): a set of characters takes at most so many
bytes as its encodings have ranges (`takes_setLayout`), and an expression what its parts take
(`Costs`). The expression around a name is always the same, so a short name fits
(`isSome_callAutomaton?`), and only the names behind that are measured (`fits_eq`).
-/
namespace MessageKeys

namespace Regex

section Steps

variable {α β : Type} {size : α → Nat} {size' : β → Nat} {bytes more : Nat}

/-- A result that is there and takes no more than the given bytes, if these are within the limit. -/
def Takes (size : α → Nat) (bytes : Nat) (result : Option α) : Prop :=
  bytes ≤ sizeLimit → ∃ next, result = some next ∧ size next ≤ bytes

theorem takes_some {next : α} (small : size next ≤ bytes) : Takes size bytes (some next) := by
  intro _
  exact ⟨next, rfl, small⟩

theorem Takes.bind {result : Option α} {step : α → Option β} (first : Takes size bytes result)
    (grows : bytes ≤ more) (second : ∀ next, size next ≤ bytes → Takes size' more (step next)) :
    Takes size' more (result >>= step) := by
  intro within
  obtain ⟨next, found, small⟩ := first (Nat.le_trans grows within)
  obtain ⟨last, found', small'⟩ := second next small within
  exact ⟨last, by rw [found]; exact found', small'⟩

theorem Takes.relax {result : Option α} (takes : Takes size bytes result) (grows : bytes ≤ more) :
    Takes size more result := by
  intro within
  obtain ⟨next, found, small⟩ := takes (Nat.le_trans grows within)
  exact ⟨next, found, Nat.le_trans small grows⟩

/-- A loop takes what its rounds take. -/
theorem takes_foldlM {γ : Type} {step : α → γ → Option α} {items : List γ} (size : α → Nat)
    (cost : γ → Nat)
    (each : ∀ item ∈ items, ∀ state bytes, size state ≤ bytes →
      Takes size (bytes + cost item) (step state item))
    {state : α} (small : size state ≤ bytes) :
    Takes size (bytes + (items.map cost).sum) (items.foldlM step state) := by
  induction items generalizing state bytes with
  | nil => exact takes_some (by simpa using small)
  | cons item rest ih =>
    rw [List.foldlM_cons, List.map_cons, List.sum_cons, ← Nat.add_assoc]
    refine (each item (by simp) state bytes small).bind (by omega) ?_
    intro next small'
    exact ih (fun item member => each item (List.mem_cons_of_mem _ member)) small'

end Steps

section Sets

variable {bytes : Nat} {layout : Layout} {shared : SharedLayout}

theorem takes_addStates (small : layout.bytes ≤ bytes) (count : Nat) :
    Takes Layout.bytes (bytes + 32 * count) (layout.addStates? count) := by
  intro within
  unfold Layout.bytes at small
  unfold Layout.addStates? Layout.checked? Layout.bytes
  refine ⟨_, if_pos ?_, ?_⟩ <;> simp only [stateBytes] at small ⊢ <;> omega

theorem takes_addRanges (small : layout.bytes ≤ bytes) (count : Nat) :
    Takes Layout.bytes (bytes + 32 + 8 * count) (layout.addRanges? count) := by
  intro within
  unfold Layout.bytes at small
  unfold Layout.addRanges? Layout.checked? Layout.bytes
  refine ⟨_, if_pos ?_, ?_⟩ <;> simp only [stateBytes, rangeBytes] at small ⊢ <;> omega

theorem takes_addWays (small : layout.bytes ≤ bytes) (count : Nat) :
    Takes Layout.bytes (bytes + 4 * count) (layout.addWays? count) := by
  intro within
  unfold Layout.bytes at small
  unfold Layout.addWays? Layout.checked? Layout.bytes
  refine ⟨_, if_pos ?_, ?_⟩ <;> simp only [stateBytes, wayBytes] at small ⊢ <;> omega

/-- The bytes of an automaton with a state of it. -/
def sharedBytes (found : Nat × SharedLayout) : Nat := found.2.layout.bytes

theorem takes_state (small : shared.layout.bytes ≤ bytes) (places : Nat) (key : StateKey)
    (ranges : Nat) :
    Takes sharedBytes (bytes + 32 + 8 * ranges) (shared.state? places key ranges) := by
  simp only [SharedLayout.state?]
  split
  · exact takes_some (by simp only [sharedBytes]; omega)
  · refine (takes_addRanges small ranges).bind (Nat.le_refl _) ?_
    intro next small'
    exact takes_some small'

/-- The number of ranges in sequences. -/
def rangeCount (sequences : List Text.ByteRanges) : Nat := (sequences.map List.length).sum

theorem rangeCount_cons (sequence : Text.ByteRanges) (more : List Text.ByteRanges) :
    rangeCount (sequence :: more) = sequence.length + rangeCount more := by
  rw [rangeCount, List.map_cons, List.sum_cons]
  rfl

/-- The first ranges of groups, and the ranges behind them, are ranges of the sequences. -/
theorem rangeCount_groupByFirst (sequences : List Text.ByteRanges) :
    ((groupByFirst sequences).map fun group => 1 + rangeCount group.2).sum ≤
      rangeCount sequences := by
  fun_induction groupByFirst sequences with
  | case1 => simp
  | case2 more ih => simpa [rangeCount_cons] using ih
  | case3 more behind tails next groups found ih =>
    simp only [found, List.map_cons, List.sum_cons, rangeCount_cons, List.length_cons] at ih ⊢
    omega
  | case4 range behind more next tails groups found other ih =>
    simp only [found, List.map_cons, List.sum_cons, rangeCount_cons, List.length_cons] at ih ⊢
    simp only [rangeCount, List.map_nil, List.sum_nil] at ih ⊢
    omega
  | case5 range behind more found ih =>
    simp only [List.map_cons, List.map_nil, List.sum_cons, List.sum_nil, rangeCount_cons,
      List.length_cons]
    simp only [rangeCount, List.map_nil, List.sum_nil]
    omega

theorem sum_groups (groups : List ((Nat × Nat) × List Text.ByteRanges)) :
    (groups.map fun group => 32 + 40 * rangeCount group.2).sum + 8 * groups.length =
      40 * (groups.map fun group => 1 + rangeCount group.2).sum := by
  induction groups with
  | nil => rfl
  | cons group more ih =>
    simp only [List.map_cons, List.sum_cons, List.length_cons]
    omega

theorem takes_forwardStates (stop length : Nat) (sequences : List Text.ByteRanges)
    (small : shared.layout.bytes ≤ bytes) :
    Takes sharedBytes (bytes + 32 + 40 * rangeCount sequences)
      (forwardStates? stop length sequences shared) := by
  induction length generalizing sequences shared bytes with
  | zero => exact takes_some (by simp only [sharedBytes]; omega)
  | succ length ih =>
    rw [forwardStates?]
    have ranges := rangeCount_groupByFirst sequences
    have groups := sum_groups (groupByFirst sequences)
    -- Each group takes what its tails take, and the state in front of them tells the groups apart.
    refine Takes.bind (takes_foldlM (fun state : StateKey × SharedLayout => state.2.layout.bytes)
      (fun group => 32 + 40 * rangeCount group.2) ?_ small) (by omega) ?_
    · rintro ⟨⟨low, high⟩, tails⟩ _ ⟨key, shared⟩ bytes small
      simp only
      split
      · exact takes_some (by simp only at small ⊢; omega)
      · refine (ih tails small).bind (by omega) ?_
        rintro ⟨next, shared⟩ small'
        exact takes_some (by simp only [sharedBytes] at small' ⊢; omega)
    · rintro ⟨key, shared⟩ small'
      exact (takes_state small' _ _ _).relax (by omega)

theorem takes_backwardStates (stop : Nat) (sequence : Text.ByteRanges)
    (small : shared.layout.bytes ≤ bytes) :
    Takes sharedBytes (bytes + 32 * sequence.length) (backwardStates? stop sequence shared) := by
  induction sequence generalizing stop shared bytes with
  | nil => exact takes_some (by simp only [sharedBytes]; omega)
  | cons range rest ih =>
    rw [backwardStates?]
    refine (takes_state small _ _ _).bind (by rw [List.length_cons]; omega) ?_
    intro next small'
    refine (ih next.1 small').relax ?_
    rw [List.length_cons]
    omega

/-- The bytes that a set of characters takes at most. -/
def setCost (set : CodeRanges) : Nat :=
  128 + 8 * set.length + 40 * rangeCount set.encoded + 4 * set.encoded.length

theorem sum_sequences (sequences : List Text.ByteRanges) :
    (sequences.map fun sequence => 32 * sequence.length + 4).sum =
      32 * rangeCount sequences + 4 * sequences.length := by
  induction sequences with
  | nil => rfl
  | cons sequence more ih =>
    simp only [List.map_cons, List.sum_cons, List.length_cons, rangeCount_cons]
    omega

theorem takes_setLayout (direction : Direction) (set : CodeRanges)
    (small : layout.bytes ≤ bytes) :
    Takes Layout.bytes (bytes + setCost set) (setLayout? direction set layout) := by
  unfold setLayout? setCost
  split
  · next n _ =>
    have few : encodedSize n ≤ 4 := by
      unfold encodedSize
      split <;> (try split) <;> (try split) <;> omega
    exact (takes_addStates small _).relax (by omega)
  split
  · refine (takes_addStates small 1).bind (by omega) ?_
    intro next small'
    exact (takes_addRanges small' _).relax (by omega)
  cases direction with
  | forward =>
    refine (takes_addStates small 1).bind (by omega) ?_
    intro next small'
    refine (takes_forwardStates _ _ _ small').bind (by omega) ?_
    rintro ⟨state, shared⟩ small''
    exact takes_some (by simp only [sharedBytes] at small'' ⊢; omega)
  | backward =>
    have total := sum_sequences set.encoded
    refine (takes_addStates small 2).bind (by omega) ?_
    intro next small'
    refine Takes.bind (takes_foldlM (fun shared : SharedLayout => shared.layout.bytes)
      (fun sequence => 32 * sequence.length + 4) ?_ small') (by omega) ?_
    · intro sequence _ shared bytes small
      refine (takes_backwardStates _ _ small).bind (by omega) ?_
      rintro ⟨state, shared⟩ small'
      refine (takes_addWays small' 1).bind (by omega) ?_
      intro next small''
      exact takes_some (by simp only; omega)
    · intro shared small''
      exact takes_some (by omega)

end Sets

section Expressions

variable {direction : Direction} {first second body : Regex} {m n : Nat}

/-- An expression takes at most so many bytes. -/
def Costs (direction : Direction) (regex : Regex) (cost : Nat) : Prop :=
  ∀ layout bytes, layout.bytes ≤ bytes →
    Takes Layout.bytes (bytes + cost) (regex.layout? direction layout)

theorem Costs.relax (costs : Costs direction body m) (grows : m ≤ n) : Costs direction body n := by
  intro layout bytes small
  exact (costs layout bytes small).relax (by omega)

theorem costs_char (set : CodeRanges) : Costs direction (char set) (setCost set) := by
  intro layout bytes small
  rw [layout?]
  exact takes_setLayout direction set small

theorem costs_seq (here : Costs direction first m) (there : Costs direction second n) :
    Costs direction (seq first second) (m + n) := by
  intro layout bytes small
  cases direction with
  | forward =>
    rw [layout?]
    refine (here layout bytes small).bind (by omega) ?_
    intro next small'
    exact (there next _ small').relax (by omega)
  | backward =>
    rw [layout?]
    refine (there layout bytes small).bind (by omega) ?_
    intro next small'
    exact (here next _ small').relax (by omega)

theorem costs_group (number : Nat) (inside : Costs direction body m) :
    Costs direction (group number body) (m + 64) := by
  intro layout bytes small
  cases direction with
  | forward =>
    rw [layout?]
    refine (takes_addStates small 1).bind (by omega) ?_
    intro next opened
    refine (inside next _ opened).bind (by omega) ?_
    intro next filled
    exact (takes_addStates filled 1).relax (by omega)
  | backward =>
    rw [layout?]
    exact (inside layout bytes small).relax (by omega)

/-- A part that may be missing. -/
theorem costs_optional (greedy : Bool) (inside : Costs direction body m) :
    Costs direction (repeated body 0 (some 1) greedy) (m + 72) := by
  intro layout bytes small
  rw [layout?]
  refine (takes_addStates small 1).bind (by omega) ?_
  intro next opened
  refine (inside next _ opened).bind (by omega) ?_
  intro next filled
  refine (takes_addStates filled 1).bind (by omega) ?_
  intro next closed
  exact (takes_addWays closed 2).relax (by omega)

/-- A part that comes any number of times. -/
theorem costs_any (greedy : Bool) (inside : Costs direction body m) :
    Costs direction (repeated body 0 none greedy) (m + 112) := by
  intro layout bytes small
  rw [layout?]
  split
  · refine (takes_addStates small 1).bind (by omega) ?_
    intro next opened
    refine (inside next _ opened).bind (by omega) ?_
    intro next filled
    exact (takes_addWays filled 2).relax (by omega)
  · refine (inside layout bytes small).bind (by omega) ?_
    intro next filled
    refine (takes_addStates filled 3).bind (by omega) ?_
    intro next closed
    exact (takes_addWays closed 4).relax (by omega)

/-- A part that comes once or more often. -/
theorem costs_some (greedy : Bool) (inside : Costs direction body m) :
    Costs direction (repeated body 1 none greedy) (m + 40) := by
  intro layout bytes small
  have once : Layout.repeat? (body.layout? direction) 1 layout = body.layout? direction layout := by
    simp only [Layout.repeat?]
    split <;> simp_all
  rw [layout?, once]
  · refine (inside layout bytes small).bind (by omega) ?_
    intro next filled
    refine (takes_addStates filled 1).bind (by omega) ?_
    intro next closed
    exact (takes_addWays closed 2).relax (by omega)
  · simp

end Expressions

section Calls

variable {direction : Direction}

set_option maxRecDepth 100000 in
theorem setCost_objectPart : setCost objectPart ≤ 1000000 := by decide +kernel

theorem setCost_others : setCost (.single 0x2E) ≤ 1000 ∧ setCost (.single 0x28) ≤ 1000 ∧
    setCost blanks ≤ 10000 ∧ setCost quotes ≤ 1000 ∧ setCost unquoted ≤ 10000 := by
  decide +kernel

theorem costs_object : Costs direction object 1010000 := by
  have parts : Costs direction object _ :=
    costs_optional true (costs_seq (costs_some true (costs_char objectPart)) (costs_char _))
  have names := setCost_objectPart
  have dot := setCost_others.1
  generalize setCost objectPart = nameCost at parts names
  generalize setCost (.single 0x2E) = dotCost at parts dot
  exact parts.relax (by omega)

theorem costs_keyArgument : Costs direction keyArgument 30000 := by
  have parts : Costs direction keyArgument _ :=
    costs_seq (costs_char _) <| costs_seq (costs_any true (costs_char _)) <|
      costs_seq (costs_char _) <| costs_seq (costs_group 1 (costs_some true (costs_char _)))
        (costs_char _)
  obtain ⟨-, parenthesis, blank, quote, inside⟩ := setCost_others
  generalize setCost (.single 0x28) = parenthesisCost at parts parenthesis
  generalize setCost blanks = blankCost at parts blank
  generalize setCost quotes = quoteCost at parts quote
  generalize setCost unquoted = insideCost at parts inside
  exact parts.relax (by omega)

/-- The expression around a name takes so many bytes at most, and each byte of the name a state. -/
theorem takes_callAutomaton (direction : Direction) (nameSize : Nat) :
    Takes Layout.bytes (1200000 + 32 * nameSize) (callAutomaton? direction nameSize) := by
  have nothing : Layout.start.bytes ≤ 0 := Nat.le_refl 0
  unfold callAutomaton?
  refine (takes_addStates nothing 2).bind (by omega) fun loop looped => ?_
  refine (takes_addRanges looped 1).bind (by omega) fun loop looped => ?_
  refine (takes_addWays looped 2).bind (by omega) fun start started => ?_
  cases direction with
  | forward =>
    refine (takes_addStates started 1).bind (by omega) fun next opened => ?_
    refine (costs_object next _ opened).bind (by omega) fun next behindObject => ?_
    refine (takes_addStates behindObject nameSize).bind (by omega) fun next named => ?_
    refine (costs_keyArgument next _ named).bind (by omega) fun next behindKey => ?_
    exact (takes_addStates behindKey 2).relax (by omega)
  | backward =>
    refine (costs_keyArgument start _ started).bind (by omega) fun next beforeKey => ?_
    refine (takes_addStates beforeKey nameSize).bind (by omega) fun next named => ?_
    refine (costs_object next _ named).bind (by omega) fun next beforeObject => ?_
    exact (takes_addStates beforeObject 1).relax (by omega)

/-- A short name fits. -/
theorem isSome_callAutomaton? (direction : Direction) {nameSize : Nat}
    (short : nameSize ≤ shortName) : (callAutomaton? direction nameSize).isSome = true := by
  have within : 1200000 + 32 * nameSize ≤ sizeLimit := by
    unfold shortName at short
    unfold sizeLimit
    omega
  obtain ⟨layout, made, _⟩ := takes_callAutomaton direction nameSize within
  rw [made]
  rfl

end Calls

end Regex

/-- A name is accepted exactly if the automata for its calls are within the limit. -/
theorem Call.MethodName.fits_eq (name : Call.MethodName) :
    name.fits = ((Regex.callAutomaton? .forward (Text.size name.text)).isSome &&
      (Regex.callAutomaton? .backward (Text.size name.text)).isSome) := by
  unfold Call.MethodName.fits
  by_cases short : Text.size name.text ≤ shortName
  · simp [short, Regex.isSome_callAutomaton? _ short]
  · simp [short]

end MessageKeys
