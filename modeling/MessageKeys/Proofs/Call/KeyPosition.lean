import MessageKeys.Call.Site
import MessageKeys.Proofs.Text.Standing
import MessageKeys.Proofs.Text.Trimming

/-!
Where the key of a call stands.

Between the opening parenthesis of a call and its key there are only blanks and perhaps one quote
(`site_opening`). The key's position therefore determines the parenthesis: it is the last one in
front of the key (`openAt_eq_of_keyStart`). All that a call site tells about key and arguments is
read from there, so that two sites with one key position tell the same, whichever methods they were
found for (`site_eq_of_keyStart`).
-/
namespace MessageKeys.Call

open Text

/-- A call that is read is the name, blanks and the parenthesis. -/
theorem readInvocation_eq_some {name : MethodName} {text taken : Text} {value : Unit}
    (read : readInvocation name text = some (taken, value)) :
    ∃ blanks rest, (∀ c ∈ blanks, isBlank c) ∧ taken = (name.text ++ blanks) ++ ['('] ∧
      text = (name.text ++ blanks) ++ '(' :: rest := by
  simp only [readInvocation, Option.bind_eq_bind, Option.bind_eq_some_iff] at read
  obtain ⟨behind, named, rest, opened, made⟩ := read
  rw [after?_eq_some_iff] at named
  rw [afterMark?, after?_eq_some_iff] at opened
  have blanks := blankLead_append_trimStart behind
  rw [opened] at blanks
  cases made
  refine ⟨blankLead behind, rest, ?_, rfl, ?_⟩
  · exact List.all_eq_true.mp List.all_takeWhile
  · rw [named, List.append_assoc]
    exact congrArg (name.text ++ ·) blanks.symm

/-- A call is read with all blanks in front of its parenthesis. -/
theorem readInvocation_append (name : MethodName) {blanks : Text} (blank : ∀ c ∈ blanks, isBlank c)
    (rest : Text) :
    readInvocation name ((name.text ++ blanks) ++ '(' :: rest) =
      some ((name.text ++ blanks) ++ ['('], ()) := by
  have inked : isBlank '(' = false := by decide
  have named : after? name.text ((name.text ++ blanks) ++ '(' :: rest) =
      some (blanks ++ '(' :: rest) := by
    rw [after?_eq_some_iff, List.append_assoc]
  have lead : blankLead (blanks ++ '(' :: rest) = blanks := by
    rw [blankLead, List.takeWhile_append_of_pos blank, List.takeWhile_cons, inked]
    simp
  have opened : afterMark? '(' (blanks ++ '(' :: rest) = some rest := by
    rw [afterMark?, trimStart_blanks_append blank, trimStart_cons_of_not_blank inked]
    rfl
  simp only [readInvocation, named, lead, opened, Option.bind_eq_bind, Option.bind_some]
  rfl

/-- A call stands where it says, begins with its name and ends with its opening parenthesis. -/
theorem named_of_mem_invocations {name : MethodName} {source : Text} {invocation : Invocation}
    (member : invocation ∈ invocations name source) :
    ∃ front blanks rest, source = front ++ ((name.text ++ blanks) ++ '(' :: rest) ∧
      (∀ c ∈ blanks, isBlank c) ∧ size front = invocation.start ∧
      invocation.matched = (name.text ++ blanks) ++ ['('] := by
  obtain ⟨found, inside, rfl⟩ := List.mem_map.mp member
  obtain ⟨front, behind, whole, place, read⟩ := mem_occurrences inside
  obtain ⟨blanks, rest, blank, taken, shape⟩ := readInvocation_eq_some read
  exact ⟨front, blanks, rest, by rw [whole, shape], blank, place, taken⟩

theorem parts_of_mem_invocations {name : MethodName} {source : Text} {invocation : Invocation}
    (member : invocation ∈ invocations name source) :
    ∃ front written rest, source = front ++ (written ++ '(' :: rest) ∧
      size front = invocation.start ∧ invocation.matched = written ++ ['('] := by
  obtain ⟨front, blanks, rest, whole, _, place, ends⟩ := named_of_mem_invocations member
  exact ⟨front, name.text ++ blanks, rest, whole, place, ends⟩

theorem openAt_of_matched {invocation : Invocation} {written : Text}
    (ends : invocation.matched = written ++ ['(']) :
    invocation.openAt = invocation.start + size written := by
  have mark : size ['('] = 1 := rfl
  rw [Invocation.openAt, ends, size_append, mark]
  omega

/-- The opening parenthesis of a call stands where the call says. -/
theorem exists_of_mem_invocations {name : MethodName} {source : Text} {invocation : Invocation}
    (member : invocation ∈ invocations name source) :
    ∃ front rest, source = front ++ '(' :: rest ∧ size front = invocation.openAt := by
  obtain ⟨front, written, rest, whole, place, ends⟩ := parts_of_mem_invocations member
  refine ⟨front ++ written, rest, ?_, ?_⟩
  · rw [whole, List.append_assoc]
  · rw [openAt_of_matched ends, size_append, place]

theorem beforeClose?_isPrefix {depth : Nat} {text list : Text}
    (cut : beforeClose? depth text = some list) : list <+: text := by
  induction text generalizing depth list with
  | nil => cases cut
  | cons c rest ih =>
    -- In every case that goes on, the character comes in front of what the rest gives.
    have longer : ∀ {further}, (beforeClose? further rest).map (c :: ·) = some list →
        list <+: c :: rest := by
      intro further later
      obtain ⟨inner, found, rfl⟩ := Option.map_eq_some_iff.mp later
      exact List.cons_prefix_cons.mpr ⟨rfl, ih found⟩
    unfold beforeClose? at cut
    split at cut
    · exact longer cut
    · split at cut
      · split at cut
        · cases cut
          exact List.nil_prefix
        · exact longer cut
      · exact longer cut

/-- The argument list of a call begins just behind its parenthesis. -/
theorem extract?_eq {source front rest : Text} (whole : source = front ++ '(' :: rest) :
    ∃ list balanced,
      ArgumentList.extract? source (size front) = some ⟨list, size front + 1, balanced⟩ ∧
        list <+: rest := by
  have opened : dropBytes? source (size front) = some ('(' :: rest) := by
    rw [whole, dropBytes?_append]
  simp only [ArgumentList.extract?, opened]
  cases cut : beforeClose? 0 rest with
  | some list => exact ⟨list, true, rfl, beforeClose?_isPrefix cut⟩
  | none => exact ⟨rest, false, rfl, List.prefix_refl rest⟩

/-- The first argument is cut from the beginning of the list. -/
theorem expressions_eq_cons {list : Text} {first : Expression} {more : List Expression}
    (read : expressions list = first :: more) :
    ∃ segment, segment <+: list ∧ first.toPiece = .ofSegment 0 segment := by
  have whole := join_segments .start list
  unfold expressions arguments at read
  cases cut : segments .start list with
  | nil => exact absurd cut (segments_ne_nil _ _)
  | cons segment others =>
    rw [cut] at read whole
    cases others with
    | nil =>
      refine ⟨segment, ?_, ?_⟩
      · rw [← whole]
        exact List.prefix_refl segment
      · simp only [pieces] at read
        split at read
        · cases read
        · cases read
          rfl
    | cons second rest =>
      refine ⟨segment, ?_, ?_⟩
      · rw [← whole, Text.join, List.append_assoc]
        exact List.prefix_append segment _
      · cases read
        rfl

/-- In front of the key there are only blanks and perhaps a quote. -/
theorem exists_lead_of_unquote (segment : Text) :
    ∃ lead, lead <+: segment ∧ '(' ∉ lead ∧
      size lead = size (blankLead segment) + (unquote (trim segment)).2 := by
  have blank : '(' ∉ blankLead segment := by
    intro member
    have all := List.all_eq_true.mp (List.all_takeWhile (p := isBlank) (l := segment))
    exact absurd (all '(' member) (by decide)
  have parts := blankLead_append_trimStart segment
  unfold unquote
  split
  · next rest quoted =>
    obtain ⟨behind, shape⟩ := trimEnd_isPrefix (trimStart segment)
    rw [show trimEnd (trimStart segment) = '"' :: rest from quoted] at shape
    refine ⟨blankLead segment ++ ['"'], ⟨rest ++ behind, ?_⟩, ?_, ?_⟩
    · rw [← shape] at parts
      simpa using parts
    · rw [List.mem_append, not_or]
      exact ⟨blank, by decide⟩
    · rw [size_append]
      rfl
  · exact ⟨blankLead segment, ⟨trimStart segment, parts⟩, blank, by simp⟩

/-- What a call site is made of: the list of its call, its first argument as the key, and the
others. -/
theorem ofInvocation?_eq_some {source : Text} {invocation : Invocation} {site : Site}
    (made : Site.ofInvocation? source invocation = some site) :
    site.invocation = invocation ∧
      ArgumentList.extract? source invocation.openAt = some site.list ∧
      ∃ first, expressions site.list.text = first :: site.arguments ∧
        site.key = (unquote first.text).1 ∧
        site.keyStart = site.list.offset + first.offset + (unquote first.text).2 := by
  obtain ⟨list, extracted, made⟩ := Option.bind_eq_some_iff.mp made
  split at made
  · cases made
  · next first more read =>
    cases made
    exact ⟨rfl, extracted, first, read, rfl, rfl⟩

/-- A call site is made from one of the calls. -/
theorem exists_of_mem_sites {source : Text} {methods : List MethodName} {site : Site}
    (member : site ∈ sites source methods) :
    ∃ method ∈ methods, site.invocation ∈ invocations method source ∧
      Site.ofInvocation? source site.invocation = some site := by
  obtain ⟨method, listed, inside⟩ := List.mem_flatMap.mp member
  obtain ⟨invocation, called, made⟩ := List.mem_filterMap.mp inside
  obtain ⟨rfl, _⟩ := ofInvocation?_eq_some made
  exact ⟨method, listed, called, made⟩

/-- What stands between the opening parenthesis of a call and its key. -/
theorem site_opening {source : Text} {methods : List MethodName} {site : Site}
    (member : site ∈ sites source methods) :
    Site.ofInvocation? source site.invocation = some site ∧
      ∃ front lead rest, source = front ++ '(' :: (lead ++ rest) ∧ '(' ∉ lead ∧
        size front = site.invocation.openAt ∧ site.keyStart = size front + 1 + size lead := by
  obtain ⟨_, _, called, made⟩ := exists_of_mem_sites member
  obtain ⟨front, rest, whole, place⟩ := exists_of_mem_invocations called
  obtain ⟨list, balanced, extracted, startsRest⟩ := extract?_eq whole
  obtain ⟨_, listed, first, read, _, position⟩ := ofInvocation?_eq_some made
  rw [← place, extracted, Option.some.injEq] at listed
  rw [← listed] at read position
  obtain ⟨segment, startsList, piece⟩ := expressions_eq_cons read
  obtain ⟨lead, startsSegment, plain, length⟩ := exists_lead_of_unquote segment
  obtain ⟨behind, shape⟩ := startsSegment.trans (startsList.trans startsRest)
  have text : first.text = trim segment := congrArg Piece.text piece
  have offset : first.offset = 0 + size (blankLead segment) := congrArg Piece.offset piece
  refine ⟨made, front, lead, behind, ?_, plain, place, ?_⟩
  · rw [whole, shape]
  · simp only [position, text, offset]
    omega

theorem size_through_mark (front lead : Text) :
    size (front ++ '(' :: lead) = size front + 1 + size lead := by
  have one : Char.utf8Size '(' = 1 := rfl
  rw [size_append, size_cons, one]
  omega

/-- The key of a call stands between two characters of the source. -/
theorem exists_parts_of_site {source : Text} {methods : List MethodName} {site : Site}
    (member : site ∈ sites source methods) :
    ∃ before rest, source = before ++ rest ∧ size before = site.keyStart := by
  obtain ⟨_, front, lead, rest, whole, _, _, position⟩ := site_opening member
  refine ⟨front ++ '(' :: lead, rest, ?_, ?_⟩
  · rw [whole, List.append_assoc, List.cons_append]
  · rw [size_through_mark, position]

/-- The last mark of a text divides it in one way only. -/
theorem append_cons_inj_of_last {mark : Char} {a b c d : Text} (absent : mark ∉ b)
    (missing : mark ∉ d) (same : a ++ mark :: b = c ++ mark :: d) : a = c := by
  rcases List.append_eq_append_iff.mp same with ⟨more, longer, rest⟩ | ⟨more, longer, rest⟩
  · cases more with
    | nil => simpa using longer.symm
    | cons first others =>
      rw [List.cons_append, List.cons.injEq] at rest
      exact absurd (by rw [rest.2]; simp) absent
  · cases more with
    | nil => simpa using longer
    | cons first others =>
      rw [List.cons_append, List.cons.injEq] at rest
      exact absurd (by rw [rest.2]; simp) missing

/-- Sites with one key position have one opening parenthesis. -/
theorem openAt_eq_of_keyStart {source : Text} {methods : List MethodName} {site other : Site}
    (here : site ∈ sites source methods) (there : other ∈ sites source methods)
    (same : site.keyStart = other.keyStart) :
    site.invocation.openAt = other.invocation.openAt := by
  obtain ⟨_, front, lead, rest, whole, plain, place, position⟩ := site_opening here
  obtain ⟨_, front', lead', rest', whole', plain', place', position'⟩ := site_opening there
  have divided : (front ++ '(' :: lead) ++ rest = (front' ++ '(' :: lead') ++ rest' := by
    rw [List.append_assoc, List.append_assoc, List.cons_append, List.cons_append, ← whole, whole']
  have sizes : size (front ++ '(' :: lead) = size (front' ++ '(' :: lead') := by
    rw [size_through_mark, size_through_mark, ← position, ← position', same]
  have opening : front = front' :=
    append_cons_inj_of_last plain plain' (append_inj_of_size divided sizes).1
  rw [← place, ← place', opening]

/-- Sites with one key position have one key and one list of arguments. -/
theorem site_eq_of_keyStart {source : Text} {methods : List MethodName} {site other : Site}
    (here : site ∈ sites source methods) (there : other ∈ sites source methods)
    (same : site.keyStart = other.keyStart) :
    site.key = other.key ∧ site.arguments = other.arguments := by
  have openAt := openAt_eq_of_keyStart here there same
  -- A site is read from the parenthesis on, apart from the call that it was found for.
  obtain ⟨_, listed, first, read, key, _⟩ := ofInvocation?_eq_some (site_opening here).1
  obtain ⟨_, listed', first', read', key', _⟩ := ofInvocation?_eq_some (site_opening there).1
  rw [openAt, listed', Option.some.injEq] at listed
  rw [← listed, read', List.cons.injEq] at read
  rw [key, key', read.1]
  exact ⟨rfl, read.2.symm⟩

end MessageKeys.Call
