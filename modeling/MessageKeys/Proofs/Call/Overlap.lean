import MessageKeys.Proofs.Call.KeyPosition
import MessageKeys.Proofs.Text.Trimming

/-!
Calls that are found more than once.

The calls of one method do not overlap, so that each opening parenthesis belongs to one of them
(`pairwise_invocations`). Calls of two methods can only share a parenthesis if the name of the one
ends with the name of the other (`suffix_or_suffix_of_openAt`). Where no name ends with another,
every key position therefore belongs to one call site (`pairwise_sites`).
-/
namespace MessageKeys.Call

open Text

/-- Two names of which none ends with the other; a name ends with itself. -/
def MethodName.Unrelated (name other : MethodName) : Prop :=
  ¬ name.text <:+ other.text ∧ ¬ other.text <:+ name.text

instance (name other : MethodName) : Decidable (name.Unrelated other) :=
  inferInstanceAs (Decidable (_ ∧ _))

theorem MethodName.isTrimmed_of_mem_ofTexts {texts : List Text} {name : MethodName}
    (listed : name ∈ MethodName.ofTexts texts) : IsTrimmed name.text := by
  obtain ⟨text, _, made⟩ := List.mem_filterMap.mp listed
  unfold MethodName.ofText? at made
  split at made
  · cases made
    exact isTrimmed_trim text
  · cases made

theorem takesFront_readInvocation (name : MethodName) : TakesFront (readInvocation name) := by
  intro text taken value read
  obtain ⟨blanks, rest, _, rfl, rfl⟩ := readInvocation_eq_some read
  exact ⟨by simp, ⟨rest, by simp⟩⟩

/-- The calls of one method come in order and do not overlap. -/
theorem disjoint_invocations (name : MethodName) (source : Text) :
    (invocations name source).Pairwise fun a b => a.start + size a.matched ≤ b.start :=
  List.pairwise_map.mpr (pairwise_occurrences (takesFront_readInvocation name) source)

/-- The calls of one method have different parentheses, which come in order. -/
theorem pairwise_invocations (name : MethodName) (source : Text) :
    (invocations name source).Pairwise fun a b => a.openAt < b.openAt := by
  refine (disjoint_invocations name source).imp_of_mem ?_
  intro a b here there behind
  obtain ⟨_, _, _, _, _, ends⟩ := parts_of_mem_invocations here
  obtain ⟨_, _, _, _, _, ends'⟩ := parts_of_mem_invocations there
  have mark : size ['('] = 1 := rfl
  rw [openAt_of_matched ends, openAt_of_matched ends']
  rw [ends, size_append, mark] at behind
  omega

/-- What stands in front of the parenthesis of a call, blanks apart, ends with the name. -/
theorem trimEnd_before_openAt {name : MethodName} (trimmed : IsTrimmed name.text) {source : Text}
    {invocation : Invocation} (member : invocation ∈ invocations name source) :
    ∃ before rest, source = before ++ '(' :: rest ∧ size before = invocation.openAt ∧
      name.text <:+ trimEnd before := by
  obtain ⟨front, blanks, rest, whole, blank, place, ends⟩ := named_of_mem_invocations member
  refine ⟨front ++ (name.text ++ blanks), rest, ?_, ?_, front, ?_⟩
  · rw [whole, List.append_assoc front]
  · rw [size_append, place, openAt_of_matched ends]
  · rw [trimmed.trimEnd_append name.nonempty front blank]

/-- Calls with one parenthesis are calls of names of which one ends with the other. -/
theorem suffix_or_suffix_of_openAt {name other : MethodName} (trimmed : IsTrimmed name.text)
    (trimmed' : IsTrimmed other.text) {source : Text} {a b : Invocation}
    (here : a ∈ invocations name source) (there : b ∈ invocations other source)
    (same : a.openAt = b.openAt) : name.text <:+ other.text ∨ other.text <:+ name.text := by
  obtain ⟨before, rest, whole, place, ends⟩ := trimEnd_before_openAt trimmed here
  obtain ⟨before', rest', whole', place', ends'⟩ := trimEnd_before_openAt trimmed' there
  have one : before = before' :=
    (append_inj_of_size (whole.symm.trans whole') (by rw [place, place', same])).1
  rw [← one] at ends'
  exact List.suffix_or_suffix_of_suffix ends ends'

/-- If no name ends with another, no two call sites have one key position. -/
theorem pairwise_sites {methods : List MethodName}
    (trimmed : ∀ name ∈ methods, IsTrimmed name.text)
    (unrelated : methods.Pairwise MethodName.Unrelated) (source : Text) :
    (sites source methods).Pairwise fun a b => a.keyStart ≠ b.keyStart := by
  have opened : (sites source methods).Pairwise fun a b =>
      a.invocation.openAt ≠ b.invocation.openAt := by
    refine List.pairwise_flatMap.mpr ⟨?_, unrelated.imp_of_mem ?_⟩
    · intro name _
      rw [List.pairwise_filterMap]
      refine (pairwise_invocations name source).imp ?_
      intro a b apart site made site' made'
      rw [(ofInvocation?_eq_some made).1, (ofInvocation?_eq_some made').1]
      exact Nat.ne_of_lt apart
    · intro name other listed listed' apart site found site' found' same
      obtain ⟨a, called, made⟩ := List.mem_filterMap.mp found
      obtain ⟨b, called', made'⟩ := List.mem_filterMap.mp found'
      rw [(ofInvocation?_eq_some made).1, (ofInvocation?_eq_some made').1] at same
      rcases suffix_or_suffix_of_openAt (trimmed _ listed) (trimmed _ listed') called called' same
        with ends | ends
      · exact apart.1 ends
      · exact apart.2 ends
  refine opened.imp_of_mem ?_
  intro site other here there apart same
  exact apart (openAt_eq_of_keyStart here there same)

end MessageKeys.Call
