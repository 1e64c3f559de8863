import MessageKeys.Proofs.Properties.LineEnds

/-!
Which bytes of a file an insertion keeps.

What stays is the content as it is rebuilt with its line end: the new line is put into that, or
behind it if the last line has no end (`insert?_parts`). So the old content itself stands in the
changed one if it is rebuilt as it was. The converse is `evenEnds_of_keepsLines`: a content whose
line ends differ, or whose last line ends with a carriage return, does not stand in the changed one,
wherever it is divided. Mostly the lengths tell this. Where a `\r` less at the end makes up for a
`\r` more in front, the bare feeds do (`bareFeeds_of_kept`): they would have to stand in the new
line itself, at the place where the content was divided.
-/
namespace MessageKeys.Properties

/-- Whether a content has a line end, where `\n` counts for a content that has none. -/
def UsesLineEnd (content eol : Text) : Prop :=
  eol ∈ lineEnds content ∨ lineEnds content = [] ∧ eol = ['\n']

/-- Whether a changed content is the old one with the line of a definition put in: between two parts
of it, or behind a last line that had no end. -/
def KeepsLines (content key value changed : Text) : Prop :=
  ∃ eol, UsesLineEnd content eol ∧
    ((∃ front back, content = front ++ back ∧
        changed = front ++ newLine key value ++ eol ++ back) ∨
      content ≠ [] ∧ content.getLast? ≠ some '\n' ∧
        changed = content ++ eol ++ newLine key value ++ eol)

/-- A line that defines a key is not blank, so that no line end stands at its start. -/
theorem not_prefix_of_key? {line : Text} (single : '\n' ∉ line) (defining : key? line ≠ none)
    (rest : Text) : ¬['\r', '\n'] <+: line ++ rest := by
  intro starts
  match line with
  | [] => exact defining (by decide +kernel)
  | [c] =>
    rw [List.singleton_append, List.cons_prefix_cons] at starts
    rw [← starts.1] at defining
    exact defining (by decide +kernel)
  | c :: d :: more =>
    rw [List.cons_append, List.cons_append, List.cons_prefix_cons, List.cons_prefix_cons] at starts
    exact single (by simp [← starts.2.1])

/-- Where a new line stands in the rebuilt content: in front of the line of a definition or at the
end, and behind a line end or at the start. -/
theorem insert?_parts {content key value changed : Text} (filled : content ≠ [])
    (inserted : insert? content key value = some changed) :
    (∃ front back, rebuilt (lineEnd content) content = front ++ back ∧
        changed = front ++ newLine key value ++ lineEnd content ++ back ∧
        front.getLast? ≠ some '\r' ∧ ¬['\r', '\n'] <+: back) ∨
      content.getLast? ≠ some '\n' ∧
        changed = rebuilt (lineEnd content) content ++ lineEnd content ++ newLine key value ++
          lineEnd content := by
  have parts := List.takeWhile_append_dropWhile (p := staysBefore key) (l := lines (body content))
  rw [insert?_of_filled filled] at inserted
  split at inserted
  · cases inserted
  dsimp only at inserted
  rw [Option.some.injEq, withLine] at inserted
  generalize (lines (body content)).takeWhile (staysBefore key) = before at inserted parts
  have plain : (before.flatMap (· ++ lineEnd content)).getLast? ≠ some '\r' := by
    rcases List.eq_nil_or_concat before with rfl | ⟨more, last, rfl⟩
    · simp
    · simp [List.getLast?_append, getLast?_lineEnd]
  cases after : (lines (body content)).dropWhile (staysBefore key) with
  | nil =>
    rw [after, if_pos (.inr rfl), Text.join_append_flatMap _ _ (by simp)] at inserted
    rw [after, List.append_nil] at parts
    have closed := Text.join_append_separator (lineEnd content) (lines_ne_nil (body content))
    rw [parts] at inserted plain
    by_cases ended : content.getLast? = some '\n'
    · refine .inl ⟨_, [], ?_, ?_, plain, by simp⟩
      · rw [rebuilt, if_pos ended, closed, List.append_nil]
      · rw [← inserted, List.append_nil]
        rfl
    · refine .inr ⟨ended, ?_⟩
      rw [rebuilt, if_neg ended, List.append_nil, closed, ← inserted]
      rfl
  | cons line more =>
    have member : line ∈ lines (body content) := by
      rw [← parts, after]
      simp
    have defining : key? line ≠ none := by
      have placed := List.head?_dropWhile_not (staysBefore key) (lines (body content))
      rw [after] at placed
      intro none
      simp [staysBefore, none] at placed
    rw [after, Text.join_append_flatMap _ _ (by simp), Text.join] at inserted
    rw [after] at parts
    refine .inl ⟨_, Text.join (lineEnd content) (line :: more) ++
      if content.getLast? = some '\n' then lineEnd content else [], ?_, ?_, plain, ?_⟩
    · rw [rebuilt, ← parts, Text.join_append_flatMap _ _ (by simp), List.append_assoc]
    · rw [← inserted]
      simp only [List.cons_ne_nil, or_false]
      split <;> simp
    · cases more with
      | nil => exact not_prefix_of_key? (not_mem_of_mem_lines member) defining _
      | cons next rest =>
        rw [Text.join, List.append_assoc, List.append_assoc]
        exact not_prefix_of_key? (not_mem_of_mem_lines member) defining _

/-- If the rebuilt content has its first part behind a `\r`, and a `\n` next to it, then that `\n`
stands behind this part in the content already. -/
theorem head?_of_rebuilt {start rest between back : Text} (returned : start.getLast? = some '\r')
    (even : bareFeeds (start ++ '\n' :: between) = 0) (some_bare : bareFeeds rest ≠ 0)
    (whole : rebuilt ['\r', '\n'] (start ++ rest) = start ++ '\n' :: between ++ back) :
    rest.head? = some '\n' := by
  rw [bareFeeds_newline, if_pos returned] at even
  obtain ⟨before, after, found, evenBefore, plainBefore⟩ := exists_first_bareFeed some_bare
  cases before with
  | nil => rw [found]; rfl
  | cons d before =>
    have startEven : bareFeeds (start ++ d :: before) = 0 := by
      have parts := bareFeeds_append start (d :: before)
      omega
    have startPlain : (start ++ d :: before).getLast? ≠ some '\r' := by
      rw [List.getLast?_append_of_ne_nil _ (by simp)]
      exact plainBefore
    obtain ⟨tail, built⟩ := rebuilt_first_bareFeed startEven startPlain after
    rw [List.append_assoc, ← found, whole] at built
    simp only [List.append_assoc, List.append_cancel_left_eq, List.cons_append,
      List.cons.injEq] at built
    rw [found, ← built.1]
    rfl

section Divided

variable {start new rest front back : Text} (plain : front.getLast? ≠ some '\r')
  (ended : new.getLast? = some '\n') (same : start ++ new ++ rest = front ++ new ++ back)
include plain ended same

/-- If a text is put into two others with the same result, one of which has no bare feeds and the
other has, then the other one is divided between a `\r` and a `\n` of that text. -/
theorem joint_of_bareFeeds (even : bareFeeds front = 0) (alsoEven : bareFeeds back = 0)
    (some_bare : bareFeeds (start ++ rest) ≠ 0) :
    start.getLast? = some '\r' ∧ new.head? = some '\n' ∧ rest.head? ≠ some '\n' ∧
      bareFeeds start + bareFeeds rest = 1 := by
  have closed : ∀ text : Text, (text ++ new).getLast? ≠ some '\r' := by
    intro text
    simp [List.getLast?_append, ended]
  -- The bare feeds of the common result are those of the text that is put in.
  have inside : bareFeeds (front ++ new ++ back) = bareFeeds new := by
    have first := bareFeeds_append front new
    have second := bareFeeds_append (front ++ new) back
    rw [if_neg fun both => plain both.1] at first
    rw [if_neg fun both => closed front both.1] at second
    omega
  have left := bareFeeds_append start new
  have whole := bareFeeds_append (start ++ new) rest
  have old := bareFeeds_append start rest
  rw [if_neg fun both => closed start both.1, same, inside] at whole
  have joint : start.getLast? = some '\r' ∧ new.head? = some '\n' := by
    by_contra apart
    rw [if_neg apart] at left
    omega
  rw [if_pos joint] at left
  have later : rest.head? ≠ some '\n' := by
    intro feed
    rw [if_pos ⟨joint.1, feed⟩] at old
    omega
  exact ⟨joint.1, joint.2, later, by omega⟩

/-- The new line with `\r\n` is never put both into a content with bare feeds and into the content
that is rebuilt from it with the same result. -/
theorem bareFeeds_of_kept (whole : rebuilt ['\r', '\n'] (start ++ rest) = front ++ back)
    (placed : ¬['\r', '\n'] <+: back) : bareFeeds (start ++ rest) = 0 := by
  by_contra some_bare
  have none := bareFeeds_rebuilt (start ++ rest)
  have sum := bareFeeds_append front back
  rw [if_neg fun both => plain both.1, ← whole, none] at sum
  obtain ⟨returned, feed, later, one⟩ :=
    joint_of_bareFeeds plain ended same (by omega) (by omega) some_bare
  obtain ⟨line, rfl⟩ := List.head?_eq_some_iff.mp feed
  have apart : start ≠ front := by
    intro equal
    exact plain (equal ▸ returned)
  rw [List.append_assoc, List.append_assoc, List.append_eq_append_iff] at same
  rcases same with ⟨between, longer, shifted⟩ | ⟨between, longer, shifted⟩
  · -- The content is divided in front of the new line, so that its bare feed stands behind.
    cases between with
    | nil => exact apart (by simp [longer])
    | cons c between =>
      rw [List.cons_append, List.cons_append, List.cons.injEq] at shifted
      rw [← shifted.1] at longer
      rw [longer] at whole sum
      have even : bareFeeds (start ++ '\n' :: between) = 0 := by omega
      have startEven : bareFeeds start = 0 := by
        rw [bareFeeds_newline, if_pos returned] at even
        omega
      exact later (head?_of_rebuilt returned even (by omega) whole)
  · -- The content is divided behind the new line, so that its bare feed stands where that begins.
    cases between with
    | nil => exact apart (by simp [longer])
    | cons c between =>
      rw [List.cons_append, List.cons_append, List.cons.injEq] at shifted
      rw [← shifted.1] at longer
      obtain ⟨tail, built⟩ := rebuilt_first_bareFeed (by omega) plain (between ++ rest)
      have shape : front ++ '\n' :: (between ++ rest) = start ++ rest := by
        rw [longer]
        simp
      rw [shape, whole, List.append_assoc, List.append_cancel_left_eq] at built
      exact placed ⟨tail, built.symm⟩

end Divided

/-- The lengths of the line ends, and what the line ends of a content are, by its own one. -/
theorem lineEnd_cases (content : Text) :
    lineEnd content = ['\r', '\n'] ∨
      lineEnd content = ['\n'] ∧ ∀ eol ∈ lineEnds content, eol = ['\n'] := by
  by_cases returned : ['\r', '\n'] ∈ lineEnds content
  · exact .inl (by rw [lineEnd_eq, if_pos returned])
  · refine .inr ⟨by rw [lineEnd_eq, if_neg returned], ?_⟩
    intro eol member
    rcases eq_of_mem_lineEnds member with rfl | rfl
    · exact absurd member returned
    · rfl

/-- The rebuilt content is longer by its bare feeds if the line end is `\r\n`, and shorter by the
carriage return behind the last line. -/
theorem length_rebuilt_lineEnd (content : Text) :
    (rebuilt (lineEnd content) content).length +
        (if (body content).getLast? = some '\r' then 1 else 0) =
      content.length + if lineEnd content = ['\r', '\n'] then bareFeeds content else 0 := by
  have lengths := length_rebuilt (lineEnd content) content
  rcases lineEnd_cases content with returned | ⟨feed, alike⟩
  · rw [returned, List.length_cons, List.length_singleton] at lengths
    rw [returned, if_pos rfl]
    omega
  · have all : bareFeeds content = (lineEnds content).length := List.count_eq_length.mpr
      fun eol member => (alike eol member).symm
    have other : (['\n'] : Text) ≠ ['\r', '\n'] := by decide
    rw [feed, List.length_singleton] at lengths
    rw [feed, if_neg other]
    omega

/-- A content that is kept by a rebuilding has even line ends. -/
theorem evenEnds_of_length {content : Text}
    (even : lineEnd content = ['\r', '\n'] → bareFeeds content = 0)
    (same : (rebuilt (lineEnd content) content).length = content.length) :
    HasEvenEnds content := by
  have lengths := length_rebuilt_lineEnd content
  refine ⟨?_, ?_⟩
  · rcases lineEnd_cases content with returned | ⟨feed, alike⟩
    · intro eol member
      rcases eq_of_mem_lineEnds member with rfl | rfl
      · exact returned.symm
      · exact absurd member (List.count_eq_zero.mp (even returned))
    · rw [feed]
      exact alike
  · intro returned
    rw [if_pos returned, same] at lengths
    split at lengths
    · next ends =>
      rw [even ends] at lengths
      omega
    · omega

theorem usesLineEnd_lineEnd (content : Text) : UsesLineEnd content (lineEnd content) := by
  rw [lineEnd_eq]
  split
  · next returned => exact .inl returned
  · next absent =>
    cases ends : lineEnds content with
    | nil => exact .inr ⟨ends, rfl⟩
    | cons eol more =>
      have member : eol ∈ lineEnds content := by rw [ends]; simp
      rcases eq_of_mem_lineEnds member with rfl | rfl
      · exact absurd member absent
      · exact .inl member

/-- The line ends that a content uses: its own one, or `\n` beside `\r\n` where that is bare. -/
theorem UsesLineEnd.cases {content eol : Text} (used : UsesLineEnd content eol) :
    eol = lineEnd content ∨
      lineEnd content = ['\r', '\n'] ∧ eol = ['\n'] ∧ 0 < bareFeeds content := by
  rcases lineEnd_cases content with returned | ⟨feed, alike⟩
  · rcases used with member | ⟨none, rfl⟩
    · rcases eq_of_mem_lineEnds member with rfl | rfl
      · exact .inl returned.symm
      · exact .inr ⟨returned, rfl, List.count_pos_iff.mpr member⟩
    · rw [lineEnd_eq, none] at returned
      cases returned
  · refine .inl ?_
    rcases used with member | ⟨_, rfl⟩
    · rw [alike eol member, feed]
    · rw [feed]

/-- A content with even line ends is kept by every insertion. -/
theorem keepsLines_of_evenEnds {content key value changed : Text}
    (inserted : insert? content key value = some changed) (even : HasEvenEnds content) :
    KeepsLines content key value changed := by
  refine ⟨lineEnd content, usesLineEnd_lineEnd content, ?_⟩
  by_cases empty : content = []
  · rw [insert?, if_pos empty, Option.some.injEq] at inserted
    exact .inl ⟨[], [], by rw [empty]; rfl, by rw [← inserted, List.append_nil]; rfl⟩
  · have kept := rebuilt_of_alike even.alike even.plain
    rcases insert?_parts empty inserted with ⟨front, back, whole, done, _, _⟩ | ⟨ended, done⟩
    · exact .inl ⟨front, back, kept.symm.trans whole, done⟩
    · rw [kept] at done
      exact .inr ⟨empty, ended, done⟩

/-- The lengths of a content and of the rebuilt one with line ends added to both tell whether the
line ends of the content are even. -/
theorem evenEnds_of_added {content eol : Text} (used : UsesLineEnd content eol) {added : Nat}
    (some_added : 0 < added)
    (sizes : (rebuilt (lineEnd content) content).length + added * (lineEnd content).length =
      content.length + added * eol.length)
    (even : eol = ['\r', '\n'] → lineEnd content = ['\r', '\n'] → bareFeeds content = 0) :
    HasEvenEnds content := by
  rcases used.cases with rfl | ⟨returned, rfl, bare⟩
  · exact evenEnds_of_length (fun returned => even returned returned) (by omega)
  · have lengths := length_rebuilt_lineEnd content
    rw [returned, List.length_cons, List.length_singleton] at sizes
    rw [returned, if_pos rfl] at lengths
    split at lengths <;> omega

/-- Only a content with even line ends is kept by an insertion. -/
theorem evenEnds_of_keepsLines {content key value changed : Text}
    (inserted : insert? content key value = some changed)
    (kept : KeepsLines content key value changed) : HasEvenEnds content := by
  by_cases empty : content = []
  · subst empty
    decide
  obtain ⟨eol, used, places⟩ := kept
  have feeds := count_rebuilt (count_lineEnd content) content
  have one : eol.count '\n' = 1 := by
    rcases used.cases with rfl | ⟨_, rfl, _⟩
    · exact count_lineEnd content
    · rfl
  -- The number of `\n` tells whether line ends stand on both sides of the new line.
  rcases insert?_parts empty inserted with ⟨front, back, whole, done, plain, placed⟩ | ⟨_, done⟩
  · rcases places with ⟨start, rest, divided, same⟩ | ⟨_, _, same⟩
    · have size := congrArg List.length whole
      have total := congrArg List.length divided
      have sizes := congrArg List.length (done.symm.trans same)
      simp only [List.length_append] at sizes size total
      refine evenEnds_of_added used Nat.one_pos (by omega) ?_
      intro returned own
      subst returned
      rw [own] at whole done
      have equal := same.symm.trans done
      rw [List.append_assoc start, List.append_assoc front] at equal
      rw [divided] at whole ⊢
      exact bareFeeds_of_kept plain (by simp) equal whole placed
    · have counts := congrArg (List.count '\n') (done.symm.trans same)
      rw [whole] at feeds
      simp only [List.count_append, one, count_lineEnd] at counts feeds
      omega
  · rcases places with ⟨start, rest, divided, same⟩ | ⟨_, _, same⟩
    · have counts := congrArg (List.count '\n') (done.symm.trans same)
      have total := congrArg (List.count '\n') divided
      simp only [List.count_append, one, count_lineEnd] at counts total
      omega
    · have sizes := congrArg List.length (done.symm.trans same)
      simp only [List.length_append] at sizes
      refine evenEnds_of_added used Nat.two_pos (by omega) ?_
      intro returned own
      subst returned
      have equal := done.symm.trans same
      rw [own] at equal
      simp only [List.append_assoc, List.append_cancel_right_eq] at equal
      rw [← equal]
      exact bareFeeds_rebuilt content

/-- An insertion keeps the lines byte for byte exactly when their line ends are even. -/
theorem keepsLines_iff {content key value changed : Text}
    (inserted : insert? content key value = some changed) :
    KeepsLines content key value changed ↔ HasEvenEnds content :=
  ⟨evenEnds_of_keepsLines inserted, keepsLines_of_evenEnds inserted⟩

/-- Lines that end with `\r\n`, the last one without an end. -/
def returnedLines : Text := "# keys\r\n\r\nb = 1".toList

theorem keepsLines_iff_returned :
    let changed := "# keys\r\n\r\nb = 1\r\nc=2\r\n".toList
    insert? returnedLines ['c'] ['2'] = some changed ∧ HasEvenEnds returnedLines ∧
      KeepsLines returnedLines ['c'] ['2'] changed := by
  intro changed
  have inserted : insert? returnedLines ['c'] ['2'] = some changed := by decide +kernel
  have even : HasEvenEnds returnedLines := by decide +kernel
  exact ⟨inserted, even, (keepsLines_iff inserted).mpr even⟩

/-- A `\n` becomes `\r\n` where a line is added to a file with both. -/
theorem mixed_lineEnds_change :
    insert? "a=1\nc=3\r\n".toList ['b'] ['2'] = some "a=1\r\nb=2\r\nc=3\r\n".toList ∧
      ¬KeepsLines "a=1\nc=3\r\n".toList ['b'] ['2'] "a=1\r\nb=2\r\nc=3\r\n".toList := by
  have inserted : insert? "a=1\nc=3\r\n".toList ['b'] ['2'] =
      some "a=1\r\nb=2\r\nc=3\r\n".toList := by
    decide +kernel
  refine ⟨inserted, ?_⟩
  intro kept
  exact absurd (evenEnds_of_keepsLines inserted kept) (by decide +kernel)

end MessageKeys.Properties
