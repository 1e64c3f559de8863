import MessageKeys.Text.Blank

/-!
What trimming and cutting at marks do to texts that are put together.

Blanks in front of a text or behind it do not show after trimming, and a text whose ends are not
blank is trimmed already. `dropTail` takes off exactly one tail, and `cutFirst?` cuts at the first
mark and nowhere else.
-/
namespace MessageKeys.Text

/-- Trimming leaves the text as it is. -/
def IsTrimmed (text : Text) : Prop := trim text = text

instance (text : Text) : Decidable (IsTrimmed text) := inferInstanceAs (Decidable (_ = _))

theorem trimStart_blanks_append {blanks : Text} (blank : ∀ c ∈ blanks, isBlank c) (text : Text) :
    trimStart (blanks ++ text) = trimStart text :=
  List.dropWhile_append_of_pos blank

theorem trimEnd_append_blanks (text : Text) {blanks : Text} (blank : ∀ c ∈ blanks, isBlank c) :
    trimEnd (text ++ blanks) = trimEnd text := by
  have reversed : ∀ c ∈ blanks.reverse, isBlank c := by
    intro c member
    exact blank c (List.mem_reverse.mp member)
  rw [trimEnd, List.reverse_append, List.dropWhile_append_of_pos reversed]
  rfl

theorem trim_blanks_append {blanks : Text} (blank : ∀ c ∈ blanks, isBlank c) (text : Text) :
    trim (blanks ++ text) = trim text := by
  rw [trim, trimStart_blanks_append blank, trim]

theorem trim_cons_of_blank {c : Char} (blank : isBlank c = true) (text : Text) :
    trim (c :: text) = trim text := by
  have single : ∀ other ∈ [c], isBlank other := by
    intro other member
    rw [List.mem_singleton.mp member]
    exact blank
  exact trim_blanks_append single text

theorem trimStart_cons_of_not_blank {c : Char} (inked : isBlank c = false) (rest : Text) :
    trimStart (c :: rest) = c :: rest := by
  rw [trimStart, List.dropWhile_cons, inked]
  rfl

theorem trimEnd_concat_of_not_blank {c : Char} (inked : isBlank c = false) (front : Text) :
    trimEnd (front ++ [c]) = front ++ [c] := by
  simp [trimEnd, inked]

/-- The first character that trimming at the start leaves is not blank. -/
theorem not_blank_of_trimStart_eq_cons {text rest : Text} {c : Char}
    (left : trimStart text = c :: rest) : isBlank c = false := by
  induction text with
  | nil => simp [trimStart] at left
  | cons first more ih =>
    cases inked : isBlank first with
    | true =>
      rw [trimStart, List.dropWhile_cons, inked] at left
      exact ih left
    | false =>
      rw [trimStart_cons_of_not_blank inked] at left
      rw [← (List.cons.inj left).1]
      exact inked

theorem trimStart_trimStart (text : Text) : trimStart (trimStart text) = trimStart text := by
  cases left : trimStart text with
  | nil => rfl
  | cons c rest => exact trimStart_cons_of_not_blank (not_blank_of_trimStart_eq_cons left) rest

theorem trimEnd_trimEnd (text : Text) : trimEnd (trimEnd text) = trimEnd text := by
  have twice := trimStart_trimStart text.reverse
  simp only [trimStart] at twice
  simp [trimEnd, twice]

/-- Trimming at the end keeps a first character that is not blank. -/
theorem trimEnd_cons_of_not_blank {c : Char} (inked : isBlank c = false) (rest : Text) :
    ∃ kept, trimEnd (c :: rest) = c :: kept := by
  rw [trimEnd, List.reverse_cons, List.dropWhile_append]
  split
  · exact ⟨[], by simp [inked]⟩
  · exact ⟨_, by rw [List.reverse_append]; rfl⟩

/-- Trimming keeps the first character that is not blank. -/
theorem trim_eq_cons {text rest : Text} {c : Char} (left : trimStart text = c :: rest) :
    ∃ kept, trim text = c :: kept := by
  rw [trim, left]
  exact trimEnd_cons_of_not_blank (not_blank_of_trimStart_eq_cons left) rest

theorem trimStart_ne_nil {text : Text} (filled : trim text ≠ []) :
    ∃ c rest, trimStart text = c :: rest := by
  apply List.exists_cons_of_ne_nil
  intro gone
  rw [trim, gone] at filled
  exact filled rfl

/-- What has been trimmed once is trimmed. -/
theorem isTrimmed_trim (text : Text) : IsTrimmed (trim text) := by
  unfold IsTrimmed trim
  cases left : trimStart text with
  | nil => rfl
  | cons c rest =>
    have inked := not_blank_of_trimStart_eq_cons left
    obtain ⟨kept, same⟩ := trimEnd_cons_of_not_blank inked rest
    rw [same, trimStart_cons_of_not_blank inked, ← same, trimEnd_trimEnd]

/-- Trimmed texts with a blank in front of each are trimmed to themselves. -/
theorem map_trim_blank_cons {texts : List Text} (trimmed : ∀ text ∈ texts, IsTrimmed text) :
    (texts.map (' ' :: ·)).map trim = texts := by
  induction texts with
  | nil => rfl
  | cons text more ih =>
    obtain ⟨kept, others⟩ := List.forall_mem_cons.mp trimmed
    rw [List.map_cons, List.map_cons, trim_cons_of_blank (by decide), kept, ih others]

/-- A text whose two ends are not blank is trimmed. -/
theorem isTrimmed_of_ends {first last : Char} (front : isBlank first = false)
    (back : isBlank last = false) (middle : Text) : IsTrimmed (first :: middle ++ [last]) := by
  rw [IsTrimmed, trim, List.cons_append, trimStart_cons_of_not_blank front, ← List.cons_append]
  exact trimEnd_concat_of_not_blank back _

/-- A trimmed text does not begin with a blank. -/
theorem IsTrimmed.not_blank {c : Char} {rest : Text} (trimmed : IsTrimmed (c :: rest)) :
    isBlank c = false := by
  cases blank : isBlank c with
  | false => rfl
  | true =>
    have shorter := length_trim_le rest
    rw [← trim_cons_of_blank blank, trimmed, List.length_cons] at shorter
    omega

/-- A trimmed text does not end with a blank. -/
theorem IsTrimmed.exists_last {text : Text} (trimmed : IsTrimmed text) (filled : text ≠ []) :
    ∃ front last, text = front ++ [last] ∧ isBlank last = false := by
  have backwards : trimStart (trimStart text).reverse = text.reverse := by
    have reversed := congrArg List.reverse trimmed
    rwa [trim, trimEnd, List.reverse_reverse] at reversed
  cases shape : text.reverse with
  | nil => exact absurd (List.reverse_eq_nil_iff.mp shape) filled
  | cons last front =>
    rw [shape] at backwards
    refine ⟨front.reverse, last, ?_, not_blank_of_trimStart_eq_cons backwards⟩
    rw [← List.reverse_reverse text, shape, List.reverse_cons]

/-- Of a text that ends with a trimmed one and blanks, trimming at the end takes off the blanks. -/
theorem IsTrimmed.trimEnd_append {text : Text} (trimmed : IsTrimmed text) (filled : text ≠ [])
    (front : Text) {blanks : Text} (blank : ∀ c ∈ blanks, isBlank c) :
    trimEnd (front ++ (text ++ blanks)) = front ++ text := by
  obtain ⟨start, last, shape, inked⟩ := trimmed.exists_last filled
  rw [← List.append_assoc, trimEnd_append_blanks _ blank, shape, ← List.append_assoc,
    trimEnd_concat_of_not_blank inked]

theorem isBlank_of_mem_blankLead {c : Char} {text : Text} (member : c ∈ blankLead text) :
    isBlank c = true :=
  List.all_eq_true.mp List.all_takeWhile c member

/-- Trimming takes off blanks at both ends. -/
theorem exists_blanks_of_trim (text : Text) :
    ∃ blanks, text = blankLead text ++ (trim text ++ blanks) ∧ ∀ c ∈ blanks, isBlank c = true := by
  refine ⟨(blankLead (trimStart text).reverse).reverse, ?_, ?_⟩
  · have parts := congrArg List.reverse (blankLead_append_trimStart (trimStart text).reverse)
    rw [List.reverse_append, List.reverse_reverse] at parts
    rw [trim, trimEnd, ← trimStart, parts, blankLead_append_trimStart]
  · intro c member
    exact isBlank_of_mem_blankLead (List.mem_reverse.mp member)

theorem mem_of_mem_trim {c : Char} {text : Text} (member : c ∈ trim text) : c ∈ text :=
  (List.dropWhile_suffix _).subset ((trimEnd_isPrefix _).subset member)

/-- Trimming takes off blanks only. -/
theorem mem_trim_of_not_blank {c : Char} {text : Text} (member : c ∈ text)
    (inked : isBlank c = false) : c ∈ trim text := by
  have kept : ∀ {whole : Text}, c ∈ whole → c ∈ trimStart whole := by
    intro whole inside
    rw [← blankLead_append_trimStart whole, List.mem_append] at inside
    rcases inside with lead | rest
    · have blank := List.all_eq_true.mp List.all_takeWhile c lead
      rw [inked] at blank
      cases blank
    · exact rest
  have backwards := kept (List.mem_reverse.mpr (kept member))
  simpa [trim, trimEnd, trimStart] using backwards

theorem trimStart_append {text : Text} (filled : trimStart text ≠ []) (rest : Text) :
    trimStart (text ++ rest) = trimStart text ++ rest := by
  rw [trimStart, List.dropWhile_append, if_neg (by simpa [trimStart] using filled), trimStart]

theorem trim_append_blanks (text : Text) {blanks : Text} (blank : ∀ c ∈ blanks, isBlank c) :
    trim (text ++ blanks) = trim text := by
  by_cases gone : trimStart text = []
  · have whole := blankLead_append_trimStart text
    rw [gone, List.append_nil] at whole
    have led : ∀ c ∈ text, isBlank c := by
      intro c member
      rw [← whole] at member
      exact List.all_eq_true.mp List.all_takeWhile c member
    have dropped := trimStart_blanks_append blank []
    rw [List.append_nil] at dropped
    rw [trim, trimStart_blanks_append led, dropped, trim, gone]
    rfl
  · rw [trim, trimStart_append gone, trimEnd_append_blanks _ blank, trim]

/-- Taking off a tail that stands there gives the text in front of it. -/
theorem dropTail_append (text tail : Text) : dropTail tail (text ++ tail) = text := by
  have read : after? tail.reverse (text ++ tail).reverse = some text.reverse := by
    rw [after?_eq_some_iff, List.reverse_append]
  rw [dropTail, before?, read]
  simp

/-- A tail that does not stand there is not taken off. -/
theorem dropTail_or (tail text : Text) :
    dropTail tail text = text ∨ text = dropTail tail text ++ tail := by
  cases read : after? tail.reverse text.reverse with
  | none => exact .inl (by simp [dropTail, before?, read])
  | some front =>
    right
    have whole := congrArg List.reverse (after?_eq_some_iff.mp read)
    simpa [dropTail, before?, read] using whole

/-- The cut at the first mark, where no mark stands in front. -/
theorem cutFirst?_append {mark : Char} {before : Text} (absent : mark ∉ before) (after : Text) :
    cutFirst? mark (before ++ mark :: after) = some (before, after) := by
  induction before with
  | nil => simp [cutFirst?]
  | cons c rest ih =>
    rw [List.mem_cons, not_or] at absent
    simp [cutFirst?, Ne.symm absent.1, ih absent.2]

/-- The cut at the last mark, where no mark stands behind. -/
theorem cutLast?_append {mark : Char} {after : Text} (absent : mark ∉ after) (before : Text) :
    cutLast? mark (before ++ mark :: after) = some (before, after) := by
  have reversed : (before ++ mark :: after).reverse = after.reverse ++ mark :: before.reverse := by
    simp
  have missing : mark ∉ after.reverse := by simpa using absent
  rw [cutLast?, reversed, cutFirst?_append missing]
  simp

theorem cutFirst?_eq_some {mark : Char} {text before after : Text}
    (cut : cutFirst? mark text = some (before, after)) :
    text = before ++ mark :: after ∧ mark ∉ before := by
  induction text generalizing before with
  | nil => simp [cutFirst?] at cut
  | cons c rest ih =>
    simp only [cutFirst?] at cut
    split at cut
    · next same =>
      cases cut
      exact ⟨by rw [same]; rfl, by simp⟩
    · next different =>
      obtain ⟨⟨front, back⟩, inner, same⟩ := Option.map_eq_some_iff.mp cut
      cases same
      obtain ⟨whole, absent⟩ := ih inner
      refine ⟨by rw [whole]; rfl, ?_⟩
      rw [List.mem_cons, not_or]
      exact ⟨Ne.symm different, absent⟩

theorem cutFirst?_eq_none_iff {mark : Char} {text : Text} :
    cutFirst? mark text = none ↔ mark ∉ text := by
  induction text with
  | nil => simp [cutFirst?]
  | cons c rest ih =>
    rw [cutFirst?, List.mem_cons, not_or]
    split
    · next same => simp [same]
    · next different => simp [Option.map_eq_none_iff, ih, Ne.symm different]

end MessageKeys.Text
