import MessageKeys.Proofs.Call.Spans
import MessageKeys.Proofs.Call.TopLevel

/-!
Cutting an argument list at its top-level commas.

The commas that `segments` cuts at are those in front of which the list is at the top
(`mem_separators_segments`), and the segments are what stands between them
(`slices_between_separators`). A piece is a segment without the blanks at its ends, so a character
that belongs to no piece is blank or one of these commas (`blank_or_separator`).
-/
namespace MessageKeys.Call

open Text

/-- A comma at a byte position, in front of which the list is at the top. -/
def IsTopComma (list : Text) (position : Nat) : Prop :=
  ∃ before after, list = before ++ ',' :: after ∧ size before = position ∧ EndsAtTop before

/-- The spans that one-byte marks at some positions leave between `start` and `stop`. -/
def spansBetween (start stop : Nat) : List Nat → List Span
  | [] => [⟨start, stop⟩]
  | mark :: more => ⟨start, mark⟩ :: spansBetween (mark + 1) stop more

/-- The pieces are what is left of a list that is cut at its top-level commas. -/
structure IsCutAt (list : Text) (commas : List Nat) (pieces : List Piece) : Prop where
  increasing : commas.Pairwise (· < ·)
  exactly : ∀ position, position ∈ commas ↔ IsTopComma list position
  /-- What ends at a comma is trimmed, and so is the tail, unless it is blank. -/
  trims : ∃ ended tail,
    (spansBetween 0 (size list) commas).map (fun span => slice? list span.start span.stop) =
      (ended ++ [tail]).map some ∧
    pieces.map (·.text) = ended.map trim ++ if trim tail = [] then [] else [trim tail]
  stands : ∀ piece ∈ pieces, slice? list piece.offset piece.stop = some piece.text
  ordered : pieces.Pairwise fun before after => before.stop < after.offset
  /-- Nothing but blanks and the commas lies outside the pieces. -/
  covers : ∀ before c after, list = before ++ c :: after →
    (∀ piece ∈ pieces, size before < piece.offset ∨ piece.stop ≤ size before) →
    isBlank c = true ∨ (c = ',' ∧ size before ∈ commas)

/-! ## Where the commas stand -/

/-- The positions of one-byte separators between texts, the first of which stands at `start`. -/
def separators (start : Nat) : List Text → List Nat
  | text :: next :: more =>
    (start + size text) :: separators (start + size text + 1) (next :: more)
  | _ => []

theorem separators_cons_cons (start : Nat) (c : Char) (first : Text) (more : List Text) :
    separators start ((c :: first) :: more) = separators (start + c.utf8Size) (first :: more) := by
  cases more with
  | nil => rfl
  | cons next others => simp [separators, Nat.add_assoc]

theorem le_of_mem_separators {start position : Nat} {texts : List Text}
    (member : position ∈ separators start texts) : start ≤ position := by
  fun_induction separators start texts with
  | case1 start text next more ih =>
    rcases List.mem_cons.mp member with rfl | later
    · omega
    · have behind := ih later
      omega
  | case2 => cases member

theorem pairwise_separators (start : Nat) (texts : List Text) :
    (separators start texts).Pairwise (· < ·) := by
  fun_induction separators start texts with
  | case1 start text next more ih =>
    refine List.pairwise_cons.mpr ⟨?_, ih⟩
    intro position later
    have behind := le_of_mem_separators later
    omega
  | case2 => exact .nil

/-- A list is cut at the commas that a reader at the top comes to. -/
theorem mem_separators_segments {scan : Scan} {text : Text} {start position : Nat} :
    position ∈ separators start (segments scan text) ↔
      ∃ before after, text = before ++ ',' :: after ∧ start + size before = position ∧
        (scan.run before).atTop = true := by
  induction text generalizing scan start with
  | nil => simp [segments, separators]
  | cons c rest ih =>
    obtain ⟨first, more, cut⟩ := List.exists_cons_of_ne_nil (segments_ne_nil (scan.step c) rest)
    have later := @ih (scan.step c) (start + c.utf8Size)
    rw [cut] at later
    by_cases comma : c = ',' ∧ scan.atTop = true
    · obtain ⟨rfl, top⟩ := comma
      have one : Char.utf8Size ',' = 1 := rfl
      rw [one] at later
      rw [segments, if_pos ⟨rfl, top⟩, cut, separators, List.mem_cons, size_nil, Nat.add_zero,
        later]
      constructor
      · rintro (rfl | ⟨before, after, rfl, rfl, passed⟩)
        · exact ⟨[], rest, rfl, rfl, top⟩
        · exact ⟨',' :: before, after, rfl, by rw [size_cons, one]; omega, passed⟩
      · rintro ⟨before, after, shape, rfl, passed⟩
        rcases List.cons_eq_append_iff.mp shape with ⟨rfl, _⟩ | ⟨front, rfl, inner⟩
        · exact .inl rfl
        · exact .inr ⟨front, after, inner, by rw [size_cons, one]; omega, passed⟩
    · rw [segments, if_neg comma, cut]
      dsimp only
      rw [separators_cons_cons, later]
      constructor
      · rintro ⟨before, after, rfl, rfl, passed⟩
        exact ⟨c :: before, after, rfl, by rw [size_cons]; omega, passed⟩
      · rintro ⟨before, after, shape, rfl, passed⟩
        rcases List.cons_eq_append_iff.mp shape with ⟨rfl, same⟩ | ⟨front, rfl, inner⟩
        · exact absurd ⟨(List.cons.inj same).1.symm, passed⟩ comma
        · exact ⟨front, after, inner, by rw [size_cons]; omega, passed⟩

/-- The spans that the separators leave hold the texts. -/
theorem slices_between_separators {front : Text} {texts : List Text} (filled : texts ≠ [])
    {start stop : Nat} (begins : size front = start)
    (ends : size (front ++ Text.join [','] texts) = stop) :
    (spansBetween start stop (separators start texts)).map
        (fun span => slice? (front ++ Text.join [','] texts) span.start span.stop) =
      texts.map some := by
  fun_induction separators start texts generalizing front with
  | case1 start text next more ih =>
    have comma : size [','] = 1 := rfl
    have whole : front ++ Text.join [','] (text :: next :: more) =
        (front ++ text ++ [',']) ++ Text.join [','] (next :: more) := by
      simp [Text.join]
    have here : Stands text start (front ++ Text.join [','] (text :: next :: more)) :=
      ⟨front, [','] ++ Text.join [','] (next :: more), by simp [Text.join], begins⟩
    rw [spansBetween, List.map_cons, List.map_cons, here.slice?, whole]
    rw [whole] at ends
    congr 1
    refine ih (by simp) ?_ ends
    rw [size_append, size_append, begins, comma]
  | case2 texts start several =>
    obtain ⟨last, others, rfl⟩ := List.exists_cons_of_ne_nil filled
    cases others with
    | cons next more => exact absurd rfl (several last next more)
    | nil =>
      have here : Stands last start (front ++ last) := ⟨front, [], by simp, begins⟩
      rw [Text.join, size_append, begins] at ends
      rw [spansBetween, List.map_singleton, List.map_singleton, Text.join, ← ends, here.slice?]

/-! ## What the pieces leave out -/

/-- A character of a segment that does not belong to its piece is blank. -/
theorem isBlank_of_outside {segment before after : Text} {c : Char} {start : Nat}
    (shape : segment = before ++ c :: after)
    (outside : start + size before < (Piece.ofSegment start segment).offset ∨
      (Piece.ofSegment start segment).stop ≤ start + size before) : isBlank c = true := by
  obtain ⟨blanks, parts, blank⟩ := exists_blanks_of_trim segment
  have places := congrArg size parts
  have same := parts.symm.trans shape
  simp only [Piece.ofSegment, Piece.stop] at outside
  have positive := c.utf8Size_pos
  rcases outside with early | late
  · obtain ⟨between, longer, rest⟩ := append_of_size_le same.symm (by omega)
    cases between with
    | nil =>
      rw [List.append_nil] at longer
      rw [longer] at early
      omega
    | cons first others =>
      have led : c ∈ blankLead segment := by
        rw [longer, (List.cons.inj rest).1]
        simp
      exact isBlank_of_mem_blankLead led
  · rw [← List.append_assoc] at same
    obtain ⟨between, _, rest⟩ := append_of_size_le same (by rw [size_append]; omega)
    apply blank
    rw [rest]
    simp

/-- A character outside the pieces is blank or one of the separators. -/
theorem blank_or_separator {start : Nat} {texts : List Text} {before after : Text} {c : Char}
    (shape : Text.join [','] texts = before ++ c :: after)
    (outside : ∀ piece ∈ pieces start texts,
      start + size before < piece.offset ∨ piece.stop ≤ start + size before) :
    isBlank c = true ∨ (c = ',' ∧ start + size before ∈ separators start texts) := by
  fun_induction pieces start texts generalizing before with
  | case1 => simp [Text.join] at shape
  | case2 start last blank =>
    left
    cases inked : isBlank c with
    | true => rfl
    | false =>
      have member : c ∈ last := by
        rw [Text.join] at shape
        simp [shape]
      have kept := mem_trim_of_not_blank member inked
      rw [blank] at kept
      cases kept
  | case3 start last filled =>
    exact .inl (isBlank_of_outside shape (outside _ List.mem_cons_self))
  | case4 start segment more several ih =>
    obtain ⟨next, others, rfl⟩ := List.exists_cons_of_ne_nil (by simpa using several)
    have comma : Char.utf8Size ',' = 1 := rfl
    have whole : segment ++ ',' :: Text.join [','] (next :: others) = before ++ c :: after := by
      rw [← shape]
      simp [Text.join]
    rcases Nat.lt_or_ge (size before) (size segment) with inside | behind
    · obtain ⟨between, shorter, rest⟩ := append_of_size_le whole.symm (Nat.le_of_lt inside)
      cases between with
      | nil =>
        rw [List.append_nil] at shorter
        rw [shorter] at inside
        exact absurd inside (Nat.lt_irrefl _)
      | cons first others =>
        rw [← (List.cons.inj rest).1] at shorter
        exact .inl (isBlank_of_outside shorter (outside _ List.mem_cons_self))
    · obtain ⟨between, rfl, rest⟩ := append_of_size_le whole behind
      rcases List.cons_eq_append_iff.mp rest with ⟨rfl, same⟩ | ⟨inner, rfl, later⟩
      · rw [List.append_nil, separators]
        exact .inr ⟨(List.cons.inj same).1, List.mem_cons_self⟩
      · have place : start + size (segment ++ ',' :: inner) =
            start + size segment + 1 + size inner := by
          rw [size_append, size_cons, comma]
          omega
        rw [place] at outside ⊢
        have found := ih later fun piece member => outside piece (List.mem_cons_of_mem _ member)
        rcases found with blank | ⟨same, member⟩
        · exact .inl blank
        · exact .inr ⟨same, List.mem_cons_of_mem _ member⟩

/-! ## The arguments -/

theorem exists_segments_eq (scan : Scan) (text : Text) :
    ∃ front tail, segments scan text = front ++ [tail] :=
  ⟨_, _, (List.dropLast_concat_getLast (segments_ne_nil scan text)).symm⟩

/-- The arguments of a list are what its top-level commas divide, trimmed, and nothing is lost but
these commas and blanks. -/
theorem arguments_cut_at_top_commas (list : Text) :
    ∃ commas, IsCutAt list commas (arguments list) := by
  have whole := join_segments .start list
  obtain ⟨front, tail, cut⟩ := exists_segments_eq .start list
  rw [cut] at whole
  refine ⟨separators 0 (front ++ [tail]), ?_⟩
  rw [arguments, cut]
  constructor
  · exact pairwise_separators 0 _
  · intro position
    rw [← cut, mem_separators_segments]
    simp only [Nat.zero_add, atTop_run_iff, IsTopComma]
  · have slices := @slices_between_separators [] (front ++ [tail]) (by simp) _ _ rfl rfl
    rw [List.nil_append, whole] at slices
    exact ⟨front, tail, slices, texts_pieces 0 front tail⟩
  · intro piece member
    have stands := @stands_of_mem_pieces _ _ _ member [] rfl
    rw [List.nil_append, whole] at stands
    exact stands.slice?
  · exact pairwise_pieces 0 _
  · intro before c after shape outside
    rw [← whole] at shape
    rw [← Nat.zero_add (size before)] at outside ⊢
    exact blank_or_separator shape outside

end MessageKeys.Call
