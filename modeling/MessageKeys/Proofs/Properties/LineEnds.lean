import MessageKeys.Proofs.Properties.Insertion

/-!
The line ends of a content, and what is left of them after an insertion.

`lineEnds` lists the line ends as they stand in a content. An insertion takes the content apart into
lines and joins these with one line end, which gives the content as it would be with that line end
everywhere (`rebuilt`): it has a `\r` more for every `\n` that had none, and lacks the `\r` behind
the last line (`length_rebuilt`). So it is the same content exactly if the line ends are alike and
the last line does not end with `\r` (`rebuilt_of_evenEnds`). By induction over the lines, with
`rebuilt_line`, `rebuilt_ended` and `rebuilt_newline` for a last line, for one with an end and for a
line in front of others.
-/
namespace MessageKeys.Properties

/-- The line ends of a text that stands behind a character: each `\n`, with the `\r` before it. -/
def lineEndsAfter (before : Option Char) : Text → List Text
  | [] => []
  | c :: rest =>
    (if c = '\n' then [if before = some '\r' then ['\r', '\n'] else ['\n']] else []) ++
      lineEndsAfter (some c) rest

/-- The line ends of a text. -/
def lineEnds (text : Text) : List Text := lineEndsAfter none text

/-- The number of `\n` that have no `\r` before them. -/
def bareFeeds (text : Text) : Nat := (lineEnds text).count ['\n']

theorem lineEndsAfter_append (before : Option Char) (front back : Text) :
    lineEndsAfter before (front ++ back) =
      lineEndsAfter before front ++ lineEndsAfter (front.getLast?.or before) back := by
  induction front generalizing before with
  | nil => rfl
  | cons c rest ih =>
    have last : ((c :: rest).getLast?.or before) = rest.getLast?.or (some c) := by
      rw [List.getLast?_cons]
      cases rest.getLast? <;> rfl
    rw [List.cons_append, lineEndsAfter, ih, lineEndsAfter, last, List.append_assoc]

/-- Only a carriage return matters for the line end behind it. -/
theorem lineEndsAfter_of_ne {before : Option Char} (other : before ≠ some '\r') (text : Text) :
    lineEndsAfter before text = lineEnds text := by
  cases text with
  | nil => rfl
  | cons c rest => simp [lineEnds, lineEndsAfter, other]

/-- What a text with a `\n` in it ends with stands behind that. -/
theorem endsWithReturn_newline (front back : Text) :
    (front ++ '\n' :: back).getLast? = some '\r' ↔ back.getLast? = some '\r' := by
  cases back with
  | nil => simp
  | cons c rest => simp [List.getLast?_append, List.getLast?_cons]

theorem lineEnds_newline (front back : Text) :
    lineEnds (front ++ '\n' :: back) =
      lineEnds front ++ (if front.getLast? = some '\r' then ['\r', '\n'] else ['\n']) ::
        lineEnds back := by
  have behind : lineEndsAfter (some '\n') back = lineEnds back :=
    lineEndsAfter_of_ne (by decide) back
  rw [lineEnds, lineEndsAfter_append, lineEndsAfter, behind, Option.or_none]
  rfl

theorem lineEnds_of_not_mem {text : Text} (single : '\n' ∉ text) : lineEnds text = [] := by
  unfold lineEnds
  generalize none = before
  induction text generalizing before with
  | nil => rfl
  | cons c rest ih =>
    rw [List.mem_cons, not_or] at single
    rw [lineEndsAfter, ih single.2, if_neg (Ne.symm single.1), List.nil_append]

theorem eq_of_mem_lineEnds {text eol : Text} (member : eol ∈ lineEnds text) :
    eol = ['\r', '\n'] ∨ eol = ['\n'] := by
  induction text using Text.induction_on_parts '\n' with
  | last line single =>
    rw [lineEnds_of_not_mem single] at member
    cases member
  | more line rest single ih =>
    rw [lineEnds_newline, lineEnds_of_not_mem single, List.nil_append, List.mem_cons] at member
    rcases member with here | later
    · rw [here]
      split
      · exact .inl rfl
      · exact .inr rfl
    · exact ih later

/-- A division of a text between a `\r` and a `\n` leaves one bare feed more. -/
theorem bareFeeds_append (front back : Text) :
    bareFeeds (front ++ back) +
        (if front.getLast? = some '\r' ∧ back.head? = some '\n' then 1 else 0) =
      bareFeeds front + bareFeeds back := by
  have whole : lineEnds (front ++ back) = lineEnds front ++ lineEndsAfter front.getLast? back := by
    rw [lineEnds, lineEndsAfter_append, Option.or_none]
    rfl
  rw [bareFeeds, whole, List.count_append, Nat.add_assoc, bareFeeds, bareFeeds,
    Nat.add_left_cancel_iff]
  by_cases returned : front.getLast? = some '\r'
  · cases back with
    | nil => simp [lineEnds, lineEndsAfter]
    | cons c rest =>
      by_cases feed : c = '\n'
      · simp [lineEnds, lineEndsAfter, returned, feed]
      · simp [lineEnds, lineEndsAfter, feed]
  · rw [lineEndsAfter_of_ne returned, if_neg fun both => returned both.1, Nat.add_zero]

theorem bareFeeds_newline (front back : Text) :
    bareFeeds (front ++ '\n' :: back) =
      bareFeeds front + (if front.getLast? = some '\r' then 0 else 1) + bareFeeds back := by
  rw [bareFeeds, lineEnds_newline, List.count_append, List.count_cons, bareFeeds, bareFeeds]
  split <;> simp
  omega

theorem bareFeeds_of_not_mem {text : Text} (single : '\n' ∉ text) : bareFeeds text = 0 := by
  rw [bareFeeds, lineEnds_of_not_mem single, List.count_nil]

/-- The first bare feed of a text. -/
theorem exists_first_bareFeed {text : Text} (some_bare : bareFeeds text ≠ 0) :
    ∃ front back, text = front ++ '\n' :: back ∧ bareFeeds front = 0 ∧
      front.getLast? ≠ some '\r' := by
  induction text using Text.induction_on_parts '\n' with
  | last line single => exact absurd (bareFeeds_of_not_mem single) some_bare
  | more line rest single ih =>
    by_cases returned : line.getLast? = some '\r'
    · rw [bareFeeds_newline, bareFeeds_of_not_mem single, if_pos returned] at some_bare
      obtain ⟨front, back, whole, even, plain⟩ := ih (by omega)
      refine ⟨line ++ '\n' :: front, back, by simp [whole], ?_, ?_⟩
      · rw [bareFeeds_newline, bareFeeds_of_not_mem single, if_pos returned, even]
      · rwa [ne_eq, endsWithReturn_newline]
    · exact ⟨line, rest, rfl, bareFeeds_of_not_mem single, returned⟩

/-- The line end of a content is `\r\n` if that is one of its line ends. -/
theorem lineEnd_eq (content : Text) :
    lineEnd content = if ['\r', '\n'] ∈ lineEnds content then ['\r', '\n'] else ['\n'] := by
  have found : ∀ (text : Text) (before : Option Char),
      ['\r', '\n'] ∈ lineEndsAfter before text ↔
        before = some '\r' ∧ text.head? = some '\n' ∨ Text.hasPart ['\r', '\n'] text = true := by
    intro text
    induction text with
    | nil => simp [lineEndsAfter, Text.hasPart]
    | cons c rest ih =>
      intro before
      have ended : ['\r', '\n'] ∈ (if c = '\n' then
          [if before = some '\r' then ['\r', '\n'] else ['\n']] else []) ↔
          before = some '\r' ∧ c = '\n' := by
        by_cases feed : c = '\n' <;> by_cases returned : before = some '\r' <;>
          simp [feed, returned]
      have starts : ['\r', '\n'].isPrefixOf (c :: rest) = true ↔
          c = '\r' ∧ rest.head? = some '\n' := by
        rw [List.isPrefixOf_iff_prefix, List.cons_prefix_cons, eq_comm]
        cases rest with
        | nil => simp
        | cons d more => simp [@eq_comm _ '\n' d]
      rw [lineEndsAfter, List.mem_append, ih, Text.hasPart, ended, Bool.or_eq_true, starts,
        List.head?_cons, Option.some.injEq, Option.some.injEq]
  have iff := found content none
  simp only [reduceCtorEq, false_and, false_or] at iff
  rw [lineEnd, lineEnds]
  simp only [iff]

theorem getLast?_lineEnd (content : Text) : (lineEnd content).getLast? = some '\n' := by
  unfold lineEnd
  split <;> rfl

theorem count_lineEnd (content : Text) : (lineEnd content).count '\n' = 1 := by
  unfold lineEnd
  split <;> rfl

/-! ## The content with one line end -/

/-- A content whose lines all end with one line end, the last one only if it ended before. -/
def rebuilt (eol content : Text) : Text :=
  Text.join eol (lines (body content)) ++ if content.getLast? = some '\n' then eol else []

theorem dropTail_of_ne {text : Text} (plain : text.getLast? ≠ some '\r') :
    Text.dropTail ['\r'] text = text := by
  rcases Text.dropTail_or ['\r'] text with same | longer
  · exact same
  · rw [longer, List.getLast?_concat] at plain
    exact absurd rfl plain

theorem length_dropTail (text : Text) :
    (Text.dropTail ['\r'] text).length + (if text.getLast? = some '\r' then 1 else 0) =
      text.length := by
  by_cases returned : text.getLast? = some '\r'
  · obtain ⟨front, whole⟩ := List.getLast?_eq_some_iff.mp returned
    rw [whole, Text.dropTail_append, List.getLast?_concat, if_pos rfl, List.length_append]
    rfl
  · rw [dropTail_of_ne returned, if_neg returned, Nat.add_zero]

theorem not_mem_dropTail {text : Text} (single : '\n' ∉ text) :
    '\n' ∉ Text.dropTail ['\r'] text := by
  rcases Text.dropTail_or ['\r'] text with same | longer
  · rwa [same]
  · intro member
    rw [longer] at single
    exact single (List.mem_append_left _ member)

theorem dropTail_newline (front back : Text) :
    Text.dropTail ['\r'] (front ++ '\n' :: back) = front ++ '\n' :: Text.dropTail ['\r'] back := by
  by_cases returned : back.getLast? = some '\r'
  · obtain ⟨more, whole⟩ := List.getLast?_eq_some_iff.mp returned
    have shape : front ++ '\n' :: (more ++ ['\r']) = (front ++ '\n' :: more) ++ ['\r'] := by simp
    rw [whole, shape, Text.dropTail_append, Text.dropTail_append]
  · rw [dropTail_of_ne returned, dropTail_of_ne]
    rwa [ne_eq, endsWithReturn_newline]

section Body

variable {line : Text} (single : '\n' ∉ line)
include single

theorem getLast?_ne_of_not_mem : line.getLast? ≠ some '\n' :=
  fun ended => single (List.mem_of_getLast? ended)

theorem body_line : body line = line := if_neg (getLast?_ne_of_not_mem single)

omit single in
theorem body_ended (line : Text) : body (line ++ ['\n']) = Text.dropTail ['\r'] line := by
  rw [body, List.getLast?_concat, if_pos rfl, List.dropLast_concat]

omit single in
theorem getLast?_newline (line : Text) {rest : Text} (filled : rest ≠ []) :
    (line ++ '\n' :: rest).getLast? = rest.getLast? := by
  obtain ⟨c, more, rfl⟩ := List.exists_cons_of_ne_nil filled
  rw [List.getLast?_append, List.getLast?_cons_cons, List.getLast?_cons]
  rfl

omit single in
theorem body_newline (line : Text) {rest : Text} (filled : rest ≠ []) :
    body (line ++ '\n' :: rest) = line ++ '\n' :: body rest := by
  unfold body
  rw [getLast?_newline line filled]
  split
  · rw [List.dropLast_append_of_ne_nil (by simp), List.dropLast_cons_of_ne_nil filled,
      dropTail_newline]
  · rfl

variable (eol : Text)

theorem rebuilt_line : rebuilt eol line = Text.dropTail ['\r'] line := by
  rw [rebuilt, body_line single, if_neg (getLast?_ne_of_not_mem single), lines,
    List.splitOn_eq_singleton single, List.append_nil]
  rfl

theorem rebuilt_ended :
    rebuilt eol (line ++ ['\n']) = Text.dropTail ['\r'] (Text.dropTail ['\r'] line) ++ eol := by
  rw [rebuilt, body_ended, List.getLast?_concat, if_pos rfl, lines,
    List.splitOn_eq_singleton (not_mem_dropTail single)]
  rfl

theorem rebuilt_newline {rest : Text} (filled : rest ≠ []) :
    rebuilt eol (line ++ '\n' :: rest) = Text.dropTail ['\r'] line ++ eol ++ rebuilt eol rest := by
  have divided : lines (line ++ '\n' :: body rest) =
      [Text.dropTail ['\r'] line] ++ lines (body rest) := by
    rw [lines, List.splitOn_append_cons_self, List.splitOn_eq_singleton single, List.map_append]
    rfl
  rw [rebuilt, body_newline line filled, getLast?_newline line filled, divided,
    Text.join_append eol (by simp) (lines_ne_nil _), rebuilt, List.append_assoc]
  rfl

end Body

/-- Line ends that are alike, and no carriage return behind the last line but in its line end. -/
structure HasEvenEnds (content : Text) : Prop where
  alike : ∀ eol ∈ lineEnds content, eol = lineEnd content
  plain : (body content).getLast? ≠ some '\r'

instance (content : Text) : Decidable (HasEvenEnds content) :=
  decidable_of_iff
    ((∀ eol ∈ lineEnds content, eol = lineEnd content) ∧ (body content).getLast? ≠ some '\r')
    ⟨fun ⟨alike, plain⟩ => ⟨alike, plain⟩, fun even => ⟨even.alike, even.plain⟩⟩

theorem dropTail_append_lineEnd (line : Text) :
    Text.dropTail ['\r'] line ++
        (if line.getLast? = some '\r' then ['\r', '\n'] else ['\n']) = line ++ ['\n'] := by
  by_cases returned : line.getLast? = some '\r'
  · obtain ⟨front, rfl⟩ := List.getLast?_eq_some_iff.mp returned
    rw [if_pos returned, Text.dropTail_append, List.append_assoc]
    rfl
  · rw [if_neg returned, dropTail_of_ne returned]

/-- The body of a content in which the line is not the last ends like the body of what follows. -/
theorem getLast?_body_newline (line : Text) {rest : Text} (filled : rest ≠ []) :
    (body (line ++ '\n' :: rest)).getLast? = some '\r' ↔ (body rest).getLast? = some '\r' := by
  rw [body_newline line filled, endsWithReturn_newline]

/-- A content with even line ends is rebuilt as it was. -/
theorem rebuilt_of_alike {eol content : Text} (alike : ∀ other ∈ lineEnds content, other = eol)
    (plain : (body content).getLast? ≠ some '\r') : rebuilt eol content = content := by
  induction content using Text.induction_on_parts '\n' with
  | last line single =>
    rw [body_line single] at plain
    rw [rebuilt_line single, dropTail_of_ne plain]
  | more line rest single ih =>
    rw [lineEnds_newline, lineEnds_of_not_mem single, List.nil_append, List.forall_mem_cons]
      at alike
    by_cases last : rest = []
    · rw [last, body_ended] at plain
      rw [last, rebuilt_ended single, dropTail_of_ne plain, ← alike.1, dropTail_append_lineEnd]
    · rw [ne_eq, getLast?_body_newline line last] at plain
      rw [rebuilt_newline single eol last, ih alike.2 plain, ← alike.1, dropTail_append_lineEnd,
        List.append_assoc]
      rfl

/-- What becomes longer, and what shorter, when a content is rebuilt. -/
theorem length_rebuilt (eol content : Text) :
    (rebuilt eol content).length + (if (body content).getLast? = some '\r' then 1 else 0) +
        2 * (lineEnds content).length =
      content.length + (lineEnds content).length * eol.length + bareFeeds content := by
  induction content using Text.induction_on_parts '\n' with
  | last line single =>
    have shorter := length_dropTail line
    rw [rebuilt_line single, body_line single, lineEnds_of_not_mem single,
      bareFeeds_of_not_mem single, List.length_nil]
    omega
  | more line rest single ih =>
    have shorter := length_dropTail line
    have feeds : (if line.getLast? = some '\r' then 0 else 1) +
        (if line.getLast? = some '\r' then 1 else 0) = 1 := by
      split <;> rfl
    rw [lineEnds_newline, lineEnds_of_not_mem single, List.nil_append, List.length_cons,
      Nat.add_mul, bareFeeds_newline, bareFeeds_of_not_mem single]
    by_cases last : rest = []
    · have again := length_dropTail (Text.dropTail ['\r'] line)
      rw [last, rebuilt_ended single, body_ended, List.length_append, List.length_append]
      simp only [lineEnds, lineEndsAfter, bareFeeds, List.length_nil, List.count_nil,
        List.length_singleton]
      omega
    · rw [rebuilt_newline single eol last]
      simp only [getLast?_body_newline line last, List.length_append, List.length_cons]
      omega

theorem count_rebuilt {eol : Text} (one : eol.count '\n' = 1) (content : Text) :
    (rebuilt eol content).count '\n' = content.count '\n' := by
  induction content using Text.induction_on_parts '\n' with
  | last line single =>
    rw [rebuilt_line single, List.count_eq_zero.mpr (not_mem_dropTail single),
      List.count_eq_zero.mpr single]
  | more line rest single ih =>
    have cleaned := not_mem_dropTail single
    by_cases last : rest = []
    · rw [last, rebuilt_ended single, List.count_append, List.count_append,
        List.count_eq_zero.mpr (not_mem_dropTail cleaned), List.count_eq_zero.mpr single, one]
      rfl
    · rw [rebuilt_newline single eol last, List.count_append, List.count_append, ih,
        List.count_eq_zero.mpr cleaned, List.count_append, List.count_eq_zero.mpr single, one,
        List.count_cons_self]
      omega

theorem eq_of_rebuilt_eq_nil {eol : Text} (shown : eol ≠ []) {content : Text}
    (gone : rebuilt eol content = []) : content = [] ∨ content = ['\r'] := by
  induction content using Text.induction_on_parts '\n' with
  | last line single =>
    rw [rebuilt_line single] at gone
    rcases Text.dropTail_or ['\r'] line with same | longer
    · exact .inl (same.symm.trans gone)
    · rw [gone] at longer
      exact .inr longer
  | more line rest single _ =>
    by_cases last : rest = []
    · rw [last, rebuilt_ended single, List.append_eq_nil_iff] at gone
      exact absurd gone.2 shown
    · rw [rebuilt_newline single eol last, List.append_eq_nil_iff, List.append_eq_nil_iff] at gone
      exact absurd gone.1.2 shown

/-- The last line is lost in rebuilding if it is a carriage return. -/
theorem getLast?_rebuilt {eol : Text} (ends : eol.getLast? = some '\n') {content : Text}
    (unended : content.getLast? ≠ some '\n') :
    (rebuilt eol content).getLast? = some '\n' ↔ ['\n', '\r'] <:+ content := by
  induction content using Text.induction_on_parts '\n' with
  | last line single =>
    rw [rebuilt_line single]
    constructor
    · intro feed
      exact absurd (List.mem_of_getLast? feed) (not_mem_dropTail single)
    · rintro ⟨front, rfl⟩
      simp at single
  | more line rest single ih =>
    have filled : rest ≠ [] := by
      rintro rfl
      simp at unended
    rw [getLast?_newline line filled] at unended
    have later := ih unended
    have inner : rest <:+ line ++ '\n' :: rest := ⟨line ++ ['\n'], by simp⟩
    rw [rebuilt_newline single eol filled]
    by_cases gone : rebuilt eol rest = []
    · have returned := (eq_of_rebuilt_eq_nil (by rintro rfl; cases ends) gone).resolve_left filled
      rw [gone, returned, List.append_nil, List.getLast?_append, ends]
      exact iff_of_true rfl ⟨line, rfl⟩
    · rw [List.getLast?_append_of_ne_nil _ gone, later]
      refine ⟨fun found => found.trans inner, fun found => ?_⟩
      rcases List.suffix_or_suffix_of_suffix found inner with here | short
      · exact here
      · rw [List.suffix_cons_iff, List.suffix_cons_iff, List.suffix_nil] at short
        rcases short with rfl | rfl | none
        · exact List.suffix_rfl
        · exact absurd (by rw [rebuilt_line (by decide)]; rfl) gone
        · exact absurd none filled

/-- After rebuilding with `\r\n` no `\n` is left without `\r`. -/
theorem bareFeeds_rebuilt (content : Text) : bareFeeds (rebuilt ['\r', '\n'] content) = 0 := by
  have returned : ∀ {text : Text}, '\n' ∉ text → ∀ rest : Text,
      bareFeeds (text ++ ['\r', '\n'] ++ rest) = bareFeeds rest := by
    intro text single rest
    have longer : '\n' ∉ text ++ ['\r'] := by simpa using single
    have shape : text ++ ['\r', '\n'] ++ rest = (text ++ ['\r']) ++ '\n' :: rest := by simp
    rw [shape, bareFeeds_newline, bareFeeds_of_not_mem longer, List.getLast?_concat, if_pos rfl,
      Nat.zero_add]
  induction content using Text.induction_on_parts '\n' with
  | last line single =>
    rw [rebuilt_line single]
    exact bareFeeds_of_not_mem (not_mem_dropTail single)
  | more line rest single ih =>
    have cleaned := not_mem_dropTail single
    by_cases last : rest = []
    · have ended := returned (not_mem_dropTail cleaned) []
      rw [List.append_nil] at ended
      rw [last, rebuilt_ended single, ended]
      rfl
    · rw [rebuilt_newline single _ last, returned cleaned, ih]

/-- A content is rebuilt as it was up to its first `\n` without `\r`, which gets one. -/
theorem rebuilt_first_bareFeed {front : Text} (even : bareFeeds front = 0)
    (plain : front.getLast? ≠ some '\r') (back : Text) :
    ∃ rest, rebuilt ['\r', '\n'] (front ++ '\n' :: back) = front ++ ['\r', '\n'] ++ rest := by
  induction front using Text.induction_on_parts '\n' with
  | last line single =>
    by_cases last : back = []
    · refine ⟨[], ?_⟩
      rw [last, rebuilt_ended single, dropTail_of_ne plain, dropTail_of_ne plain, List.append_nil]
    · refine ⟨rebuilt ['\r', '\n'] back, ?_⟩
      rw [rebuilt_newline single _ last, dropTail_of_ne plain]
  | more line front single ih =>
    rw [bareFeeds_newline, bareFeeds_of_not_mem single] at even
    have ended : line.getLast? = some '\r' := by
      by_contra bare
      rw [if_neg bare] at even
      omega
    rw [ne_eq, endsWithReturn_newline] at plain
    obtain ⟨rest, later⟩ := ih (by omega) plain
    have same := dropTail_append_lineEnd line
    rw [if_pos ended] at same
    refine ⟨rest, ?_⟩
    rw [List.append_assoc, List.cons_append, rebuilt_newline single _ (by simp), later, same]
    simp

end MessageKeys.Properties
