import MessageKeys.Proofs.Call.Cutting

/-!
Arguments that are joined again.

A segment that a comma ends leads a reader from the top to the top, and no segment holds a
top-level comma (`keepsTop_of_segments`). Blanks change nothing of this, since a reader in a literal
stays there and one outside stays at its depth (`atTop_run_blanks`). The trimmed segments, joined
with commas, are therefore cut at the same places again (`texts_arguments_trims`).
-/
namespace MessageKeys.Call

open Text

/-! ## Blanks -/

theorem Scan.quoting_step (scan : Scan) (c : Char) :
    (scan.step c).quoting = scan.quoting.step c := by
  unfold Scan.step
  dsimp only
  split
  · rfl
  · split <;> rfl

theorem Scan.OpenedByQuote.step {scan : Scan} (opened : scan.OpenedByQuote) (c : Char) :
    (scan.step c).OpenedByQuote := by
  intro quote found
  rw [Scan.quoting_step, Quoting.step] at found
  dsimp only at found
  split at found
  · next before inside =>
    split at found
    · cases found
    · cases found
      exact opened _ inside
  · split at found
    · next opens =>
      cases found
      exact opens
    · cases found

theorem Scan.OpenedByQuote.run {scan : Scan} (opened : scan.OpenedByQuote) (text : Text) :
    (scan.run text).OpenedByQuote := by
  induction text generalizing scan with
  | nil => exact opened
  | cons c rest ih => exact ih (opened.step c)

theorem Scan.openedByQuote_run (text : Text) : (Scan.start.run text).OpenedByQuote := by
  apply Scan.OpenedByQuote.run
  intro quote found
  cases found

/-- Blanks leave a reader at the top, or below it. -/
theorem atTop_run_blanks {scan : Scan} (opened : scan.OpenedByQuote) {blanks : Text}
    (blank : ∀ c ∈ blanks, isBlank c = true) : (scan.run blanks).atTop = scan.atTop := by
  induction blanks generalizing scan with
  | nil => rfl
  | cons c rest ih =>
    obtain ⟨here, others⟩ := List.forall_mem_cons.mp blank
    rw [Scan.run_cons, ih (opened.step c) others,
      Scan.step_plain opened (not_mem_marks (by decide) here)]
    rfl

theorem atTop_run_blankLead (text : Text) : (Scan.start.run (blankLead text)).atTop = true :=
  atTop_run_blanks (Scan.openedByQuote_run []) fun _ => isBlank_of_mem_blankLead

/-- Trimming brings no comma to the top. -/
theorem lacksTopComma_trim {text : Text} (lacks : lacksTopComma .start text = true) :
    lacksTopComma .start (trim text) = true := by
  obtain ⟨blanks, parts, _⟩ := exists_blanks_of_trim text
  rw [parts, lacksTopComma_append, lacksTopComma_of_atTop (atTop_run_blankLead text),
    lacksTopComma_append, Bool.and_eq_true, Bool.and_eq_true] at lacks
  exact lacks.2.1

theorem KeepsTop.trim {text : Text} (keeps : KeepsTop text) : KeepsTop (Text.trim text) := by
  refine ⟨?_, lacksTopComma_trim keeps.lacks_top_comma⟩
  obtain ⟨blanks, parts, blank⟩ := exists_blanks_of_trim text
  have ends := keeps.ends_at_top
  rw [parts, Scan.run_append, atTop_run_of_atTop (atTop_run_blankLead text), Scan.run_append,
    atTop_run_blanks (Scan.openedByQuote_run _) blank] at ends
  exact ends

/-! ## Segments -/

/-- A list is one segment, or its first comma at the top divides it. -/
theorem segments_cases (scan : Scan) (text : Text) :
    (lacksTopComma scan text = true ∧ segments scan text = [text]) ∨
      ∃ first rest, text = first ++ ',' :: rest ∧ lacksTopComma scan first = true ∧
        (scan.run first).atTop = true ∧ segments scan text = first :: segments .start rest := by
  induction text generalizing scan with
  | nil => exact .inl ⟨rfl, rfl⟩
  | cons c rest ih =>
    by_cases comma : c = ',' ∧ scan.atTop = true
    · obtain ⟨rfl, top⟩ := comma
      have moved : (scan.step ',').atTop = true := by
        rw [Scan.step_of_atTop top]
        rfl
      refine .inr ⟨[], rest, rfl, rfl, top, ?_⟩
      rw [segments, if_pos ⟨rfl, top⟩, segments_of_atTop moved]
    · rcases ih (scan.step c) with ⟨lacks, cut⟩ | ⟨first, behind, rfl, lacks, top, cut⟩
      · refine .inl ⟨lacksTopComma_cons_iff.mpr ⟨comma, lacks⟩, ?_⟩
        rw [segments, if_neg comma, cut]
      · refine .inr ⟨c :: first, behind, rfl, lacksTopComma_cons_iff.mpr ⟨comma, lacks⟩, top, ?_⟩
        rw [segments, if_neg comma, cut]

/-- Each segment but the last leads from the top to the top, and the last one is not cut. -/
theorem keepsTop_of_segments {list tail : Text} {front : List Text}
    (cut : segments .start list = front ++ [tail]) :
    (∀ segment ∈ front, KeepsTop segment) ∧ lacksTopComma .start tail = true := by
  induction front generalizing list with
  | nil =>
    rcases segments_cases .start list with ⟨lacks, single⟩ | ⟨first, rest, _, _, _, several⟩
    · rw [single] at cut
      cases cut
      exact ⟨by simp, lacks⟩
    · rw [several] at cut
      exact absurd (List.cons.inj cut).2 (segments_ne_nil _ _)
  | cons segment more ih =>
    rcases segments_cases .start list with ⟨_, single⟩ | ⟨first, rest, _, lacks, top, several⟩
    · rw [single] at cut
      simp at cut
    · rw [several, List.cons_append, List.cons.injEq] at cut
      obtain ⟨rfl, further⟩ := cut
      obtain ⟨others, last⟩ := ih further
      exact ⟨List.forall_mem_cons.mpr ⟨⟨top, lacks⟩, others⟩, last⟩

/-! ## The arguments -/

/-- Once trimmed, they are read back as they are. -/
theorem texts_arguments_trims {front : List Text} {tail : Text}
    (each : ∀ text ∈ front, KeepsTop text) (last : lacksTopComma .start tail = true)
    (filled : trim tail ≠ []) :
    (arguments (Text.join [','] ((front ++ [tail]).map trim))).map (·.text) =
      (front ++ [tail]).map trim := by
  have keeps : ∀ text ∈ front.map trim, KeepsTop text := by
    intro text member
    obtain ⟨segment, inside, rfl⟩ := List.mem_map.mp member
    exact (each segment inside).trim
  have again : trim (trim tail) ≠ [] := by
    rw [isTrimmed_trim tail]
    exact filled
  have read := texts_arguments_join keeps (lacksTopComma_trim last) again
  have idempotent : trim ∘ trim = trim := funext isTrimmed_trim
  rw [List.map_append, List.map_singleton, read, List.map_append, List.map_map, List.map_singleton,
    idempotent, isTrimmed_trim tail]

/-- Arguments that end with one that is not empty are read back when commas join them. -/
theorem arguments_rejoin (list : Text)
    (filled : ∀ piece, (arguments list).getLast? = some piece → piece.text ≠ []) :
    (arguments (Text.join [','] ((arguments list).map (·.text)))).map (·.text) =
      (arguments list).map (·.text) := by
  obtain ⟨front, tail, cut⟩ := exists_segments_eq .start list
  obtain ⟨each, last⟩ := keepsTop_of_segments cut
  have texts := texts_pieces 0 front tail
  rw [← cut, ← arguments] at texts
  have ends : ∀ text, ((arguments list).map (·.text)).getLast? = some text → text ≠ [] := by
    intro text found
    rw [List.getLast?_map] at found
    obtain ⟨piece, same, rfl⟩ := Option.map_eq_some_iff.mp found
    exact filled piece same
  by_cases blank : trim tail = []
  · -- The blank tail is gone, so that the segment in front of it comes last.
    rw [if_pos blank, List.append_nil] at texts
    rw [texts] at ends ⊢
    rcases List.eq_nil_or_concat front with rfl | ⟨others, final, rfl⟩
    · rfl
    · rw [List.concat_eq_append] at each ends ⊢
      obtain ⟨keeps, single⟩ := List.forall_mem_append.mp each
      have closed := (single final List.mem_cons_self).lacks_top_comma
      exact texts_arguments_trims keeps closed (ends _ (by simp))
  · rw [if_neg blank] at texts
    have whole : front.map trim ++ [trim tail] = (front ++ [tail]).map trim := by simp
    rw [texts, whole]
    exact texts_arguments_trims each last blank

/-- Brackets of two kinds across each other, an empty argument, and at the end brackets and a
literal that are not closed. -/
def raggedList : Text := "a[0) , ]( ,, ([)] , (\x7b 'b, \" ".toList

theorem arguments_rejoin_ragged :
    (arguments raggedList).map (·.text) =
        ["a[0) , ](".toList, [], "([)]".toList, "(\x7b 'b, \"".toList] ∧
      (arguments (Text.join [','] ((arguments raggedList).map (·.text)))).map (·.text) =
        (arguments raggedList).map (·.text) := by
  refine ⟨by decide, arguments_rejoin raggedList ?_⟩
  intro piece found
  have last : (arguments raggedList).getLast? = some ⟨"(\x7b 'b, \"".toList, 20⟩ := by decide
  rw [last] at found
  cases found
  decide

end MessageKeys.Call
