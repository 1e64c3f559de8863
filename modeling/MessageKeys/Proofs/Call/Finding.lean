import MessageKeys.Proofs.Call.Overlap

/-!
Which calls of a method are found.

The search for a method's calls goes on behind each call that it has found. If the name holds no
parenthesis, nothing is missed by that: a call ends with the first parenthesis behind its beginning,
so that two calls of which one begins within the other end together, and then they begin together
(`readsApart_readInvocation`). So all calls are found, in order and each once, and since between a
parenthesis and the key behind it there is no other parenthesis, the keys come in order too
(`invocations_exact`).
-/
namespace MessageKeys.Call

open Text

/-- The name of a method, blanks and an opening parenthesis, as they stand in a source. -/
structure IsCallOf (name source : Text) (call : Invocation) : Prop where
  written : ∃ blanks, (∀ c ∈ blanks, isBlank c) ∧ call.matched = name ++ blanks ++ ['(']
  stands : Stands call.matched call.start source

theorem not_mem_blanks {blanks : Text} (blank : ∀ c ∈ blanks, isBlank c) : '(' ∉ blanks :=
  fun member => absurd (blank '(' member) (by decide)

/-- Calls of a name without parentheses do not reach over one another. -/
theorem readsApart_readInvocation {name : MethodName} (trimmed : IsTrimmed name.text)
    (plain : '(' ∉ name.text) : ReadsApart (readInvocation name) := by
  intro front rest taken value read filled short
  rw [Option.eq_none_iff_forall_ne_some]
  rintro ⟨other, value'⟩ again
  obtain ⟨blanks, behind, blank, rfl, whole⟩ := readInvocation_eq_some read
  obtain ⟨blanks', behind', blank', _, rfl⟩ := readInvocation_eq_some again
  have apart : ∀ {more : Text}, (∀ c ∈ more, isBlank c) → '(' ∉ name.text ++ more := by
    intro more blank
    rw [List.mem_append, not_or]
    exact ⟨plain, not_mem_blanks blank⟩
  -- The second call begins in front of the parenthesis of the first one, so both end there.
  have begins : front <+: name.text ++ blanks := by
    rw [List.length_append, List.length_singleton] at short
    exact List.prefix_of_prefix_length_le ⟨_, rfl⟩ ⟨_, whole.symm⟩ (by omega)
  have absent : '(' ∉ front ++ (name.text ++ blanks') := by
    rw [List.mem_append, not_or]
    exact ⟨fun member => apart blank (begins.subset member), apart blank'⟩
  have together : front ++ (name.text ++ blanks') = name.text ++ blanks := by
    have cut := cutFirst?_append (apart blank) behind
    rw [← whole, ← List.append_assoc, cutFirst?_append absent behind'] at cut
    exact (Prod.mk.inj (Option.some.inj cut)).1
  -- Without the blanks in front of the parenthesis, one name is the end of the other.
  have ends := congrArg trimEnd together
  rw [trimmed.trimEnd_append name.nonempty front blank', ← List.nil_append (name.text ++ blanks),
    trimmed.trimEnd_append name.nonempty [] blank, List.nil_append] at ends
  exact filled (List.append_left_eq_self.mp ends)

/-- All calls of a name without parentheses are found, and nothing else. -/
theorem mem_invocations_iff {name : MethodName} (trimmed : IsTrimmed name.text)
    (plain : '(' ∉ name.text) {source : Text} {call : Invocation} :
    call ∈ invocations name source ↔ IsCallOf name.text source call := by
  constructor
  · intro member
    obtain ⟨front, blanks, rest, whole, blank, place, ends⟩ := named_of_mem_invocations member
    refine ⟨⟨blanks, blank, ends⟩, front, rest, ?_, place⟩
    rw [whole, ends]
    simp
  · obtain ⟨matched, start⟩ := call
    rintro ⟨⟨blanks, blank, rfl⟩, front, rest, rfl, rfl⟩
    have found := @mem_occurrences_of_read _ _ (takesFront_readInvocation name)
      (readsApart_readInvocation trimmed plain) front _ _ _ (readInvocation_append name blank rest)
    refine List.mem_map.mpr ⟨⟨size front, name.text ++ blanks ++ ['('], ()⟩, ?_, rfl⟩
    simpa using found

/-- Keys come in the order of the parentheses in front of them. -/
theorem keyStart_lt_of_openAt_lt {source : Text} {methods : List MethodName} {site other : Site}
    (here : site ∈ sites source methods) (there : other ∈ sites source methods)
    (before : site.invocation.openAt < other.invocation.openAt) :
    site.keyStart < other.keyStart := by
  obtain ⟨_, front, lead, rest, whole, absent, place, position⟩ := site_opening here
  obtain ⟨_, front', lead', rest', whole', _, place', position'⟩ := site_opening there
  have one : size ['('] = 1 := rfl
  have divided : (front ++ ['(']) ++ (lead ++ rest) = front' ++ '(' :: (lead' ++ rest') := by
    rw [← whole', whole, List.append_assoc, List.singleton_append]
  obtain ⟨between, longer, behind⟩ := append_of_size_le divided (by
    rw [size_append, one]
    omega)
  -- The lead of the first key ends in front of the next parenthesis.
  have ends : size lead ≤ size between := by
    rcases Nat.le_total (size lead) (size between) with within | beyond
    · exact within
    · obtain ⟨more, shape, tail⟩ := append_of_size_le behind.symm beyond
      cases more with
      | nil => exact Nat.le_of_eq (by rw [shape, List.append_nil])
      | cons c others =>
        rw [List.cons_append, List.cons.injEq] at tail
        exact absurd (by rw [shape, ← tail.1]; simp) absent
  have sizes := congrArg size longer
  rw [size_append, size_append, one] at sizes
  omega

/-- The keys of one method's calls come in order. -/
theorem pairwise_keyStart (name : MethodName) (source : Text) :
    (sites source [name]).Pairwise fun a b => a.keyStart < b.keyStart := by
  have opened : (sites source [name]).Pairwise fun a b =>
      a.invocation.openAt < b.invocation.openAt := by
    rw [sites, List.flatMap_singleton, List.pairwise_filterMap]
    refine (pairwise_invocations name source).imp ?_
    intro a b before site made other made'
    rwa [(ofInvocation?_eq_some made).1, (ofInvocation?_eq_some made').1]
  exact opened.imp_of_mem fun here there before => keyStart_lt_of_openAt_lt here there before

/-- A call is what stands from its start to its parenthesis, and the parenthesis is its last byte. -/
theorem slices_of_mem_invocations {name : MethodName} {source : Text} {call : Invocation}
    (member : call ∈ invocations name source) :
    slice? source call.start (call.openAt + 1) = some call.matched ∧
      slice? source call.openAt (call.openAt + 1) = some ['('] := by
  obtain ⟨front, written, rest, whole, place, ends⟩ := parts_of_mem_invocations member
  have one : size ['('] = 1 := rfl
  have openAt := openAt_of_matched ends
  have matched : Stands call.matched call.start source :=
    ⟨front, rest, by rw [whole, ends]; simp, place⟩
  have mark : Stands ['('] call.openAt source :=
    ⟨front ++ written, rest, by rw [whole]; simp, by rw [size_append, place, openAt]⟩
  have stop : call.openAt + 1 = call.start + size call.matched := by
    rw [openAt, ends, size_append, one, Nat.add_assoc]
  refine ⟨?_, mark.slice?⟩
  rw [stop]
  exact matched.slice?

/-- The calls of one method come one behind the other. -/
theorem ordered_invocations (name : MethodName) (source : Text) :
    (invocations name source).Pairwise fun a b =>
      a.start < b.start ∧ a.start + size a.matched ≤ b.start := by
  refine (disjoint_invocations name source).imp_of_mem ?_
  intro a b here _ behind
  obtain ⟨_, written, _, _, _, ends⟩ := parts_of_mem_invocations here
  have one : size ['('] = 1 := rfl
  have size := congrArg size ends
  rw [size_append, one] at size
  omega

/-- A call with a call in its list, whose name could begin once more within itself. -/
def selfOverlapping : Text := "ф aaa (\"k\", aa( b))".toList

end MessageKeys.Call
