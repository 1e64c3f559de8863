import MessageKeys.Text.Blank
import MessageKeys.Text.Occurrence

/-!
Where a part of a text stands.

A part stands at a byte position if the text in front of it has this size. Since every character has
a positive size, position and size determine the part (`Stands.unique`). What a reader finds in a
text it reads from the rest of the text at the position of the find (`mem_occurrences`). Since a
search goes on behind each find, it may pass over others, but it does not if no reading reaches over
the beginning of another one (`mem_occurrences_of_read`).
-/
namespace MessageKeys.Text

/-- A part of a text that begins at a byte position. -/
def Stands (part : Text) (start : Nat) (text : Text) : Prop :=
  ∃ before after, text = before ++ part ++ after ∧ size before = start

theorem eq_nil_of_size {text : Text} (none : size text = 0) : text = [] := by
  cases text with
  | nil => rfl
  | cons c rest =>
    have positive := c.utf8Size_pos
    rw [size_cons] at none
    omega

theorem length_le_size (text : Text) : text.length ≤ size text := by
  induction text with
  | nil => exact Nat.le_refl 0
  | cons c rest ih =>
    have positive := c.utf8Size_pos
    rw [List.length_cons, size_cons]
    omega

/-- A text is cut at a byte position in at most one way. -/
theorem append_inj_of_size {a b c d : Text} (same : a ++ b = c ++ d) (sizes : size a = size c) :
    a = c ∧ b = d := by
  induction a generalizing c with
  | nil =>
    have empty := eq_nil_of_size sizes.symm
    rw [empty] at same ⊢
    exact ⟨rfl, same⟩
  | cons first rest ih =>
    cases c with
    | nil =>
      have empty := eq_nil_of_size sizes
      cases empty
    | cons other more =>
      rw [List.cons_append, List.cons_append, List.cons.injEq] at same
      obtain ⟨rfl, tails⟩ := same
      rw [size_cons, size_cons, Nat.add_left_cancel_iff] at sizes
      obtain ⟨rfl, rfl⟩ := ih tails sizes
      exact ⟨rfl, rfl⟩

/-- Of two cuts of a text the one at the later position lies behind the other. -/
theorem append_of_size_le {a b c d : Text} (same : a ++ b = c ++ d) (earlier : size a ≤ size c) :
    ∃ between, c = a ++ between ∧ b = between ++ d := by
  rcases List.append_eq_append_iff.mp same with longer | ⟨between, shorter, rest⟩
  · exact longer
  · have sizes := congrArg size shorter
    rw [size_append] at sizes
    have none : between = [] := eq_nil_of_size (by omega)
    rw [none, List.append_nil] at shorter
    exact ⟨[], by rw [shorter, List.append_nil], by rw [rest, none]; rfl⟩

/-- A position within a part of a text divides the part. -/
theorem divided_of_size_le {before part after front rest : Text}
    (same : before ++ part ++ after = front ++ rest) (begun : size before ≤ size front)
    (notOver : size front ≤ size before + size part) :
    ∃ left right, part = left ++ right ∧ front = before ++ left ∧ rest = right ++ after := by
  rw [List.append_assoc] at same
  obtain ⟨left, leads, tail⟩ := append_of_size_le same begun
  rw [leads, size_append] at notOver
  obtain ⟨right, parts, follows⟩ := append_of_size_le tail.symm (by omega)
  exact ⟨left, right, parts, leads, follows⟩

/-- Two parts of one size at one position are the same. -/
theorem Stands.unique {part other text : Text} {start : Nat} (here : Stands part start text)
    (there : Stands other start text) (sizes : size part = size other) : part = other := by
  obtain ⟨before, after, whole, place⟩ := here
  obtain ⟨front, rest, again, same⟩ := there
  rw [whole, List.append_assoc, List.append_assoc] at again
  have tails := (append_inj_of_size again (place.trans same.symm)).2
  exact (append_inj_of_size tails sizes).1

/-- A part of a part is a part. -/
theorem Stands.trans {part inner text : Text} {start place : Nat} (inside : Stands part start inner)
    (outside : Stands inner place text) : Stands part (place + start) text := by
  obtain ⟨before, after, rfl, rfl⟩ := inside
  obtain ⟨front, rest, rfl, rfl⟩ := outside
  exact ⟨front ++ before, after ++ rest, by simp, by simp⟩

/-- A part is what a cut at its two ends gives. -/
theorem Stands.slice? {part text : Text} {start : Nat} (here : Stands part start text) :
    Text.slice? text start (start + size part) = some part := by
  obtain ⟨before, after, rfl, rfl⟩ := here
  rw [Text.slice?, if_pos (Nat.le_add_right _ _), List.append_assoc, dropBytes?_append,
    Option.bind_some, Nat.add_sub_cancel_left, takeBytes?_append]

/-- A part ends within the text. -/
theorem Stands.stop_le {part text : Text} {start : Nat} (here : Stands part start text) :
    start + size part ≤ size text := by
  obtain ⟨before, after, rfl, rfl⟩ := here
  rw [size_append, size_append]
  omega

/-- A trimmed text stands behind the blanks in front of it. -/
theorem stands_trim (text : Text) : Stands (trim text) (size (blankLead text)) text := by
  obtain ⟨blanks, shape⟩ := trimEnd_isPrefix (trimStart text)
  refine ⟨blankLead text, blanks, ?_, rfl⟩
  rw [trim, List.append_assoc, shape, blankLead_append_trimStart]

theorem mem_occurrencesFrom {α : Type} {read : Reader α} {skip offset : Nat} {text : Text}
    {found : Found α} (member : found ∈ occurrencesFrom read skip offset text) :
    ∃ front rest, text = front ++ rest ∧ offset + size front = found.start ∧
      read rest = some (found.taken, found.value) := by
  induction text generalizing skip offset with
  | nil => simp [occurrencesFrom] at member
  | cons c more ih =>
    -- One character further on, what stands in front of the find is longer by this character.
    have later : ∀ {skipped}, found ∈ occurrencesFrom read skipped (offset + c.utf8Size) more →
        ∃ front rest, c :: more = front ++ rest ∧ offset + size front = found.start ∧
          read rest = some (found.taken, found.value) := by
      intro skipped inside
      obtain ⟨front, rest, rfl, place, taken⟩ := ih inside
      exact ⟨c :: front, rest, rfl, by rw [size_cons]; omega, taken⟩
    unfold occurrencesFrom at member
    split at member
    · exact later member
    · split at member
      next taken value here =>
        rcases List.mem_cons.mp member with rfl | inside
        · exact ⟨[], c :: more, rfl, rfl, here⟩
        · exact later inside
      · exact later member

/-- What is found is read from the rest of the text at its position. -/
theorem mem_occurrences {α : Type} {read : Reader α} {text : Text} {found : Found α}
    (member : found ∈ occurrences read text) :
    ∃ front rest, text = front ++ rest ∧ size front = found.start ∧
      read rest = some (found.taken, found.value) := by
  obtain ⟨front, rest, whole, place, taken⟩ := mem_occurrencesFrom member
  exact ⟨front, rest, whole, by omega, taken⟩

/-- A reader that takes something, and takes it from the beginning of the text. -/
def TakesFront {α : Type} (read : Reader α) : Prop :=
  ∀ text taken value, read text = some (taken, value) → taken ≠ [] ∧ taken <+: text

theorem pairwise_occurrencesFrom {α : Type} {read : Reader α} (takes : TakesFront read)
    (skip offset : Nat) (text : Text) :
    (∀ found ∈ occurrencesFrom read skip offset text,
      offset + size (text.take skip) ≤ found.start) ∧
    (occurrencesFrom read skip offset text).Pairwise fun a b =>
      a.start + size a.taken ≤ b.start := by
  induction text generalizing skip offset with
  | nil => simp [occurrencesFrom]
  | cons c more ih =>
    cases skip with
    | succ later =>
      obtain ⟨behind, apart⟩ := ih later (offset + c.utf8Size)
      refine ⟨?_, apart⟩
      intro found member
      have bound := behind found member
      rw [List.take_succ_cons, size_cons]
      omega
    | zero =>
      unfold occurrencesFrom
      cases here : read (c :: more) with
      | none =>
        obtain ⟨behind, apart⟩ := ih 0 (offset + c.utf8Size)
        refine ⟨?_, apart⟩
        intro found member
        have bound := behind found member
        rw [List.take_zero, size_nil] at bound ⊢
        omega
      | some read =>
        obtain ⟨taken, value⟩ := read
        obtain ⟨filled, front⟩ := takes _ _ _ here
        obtain ⟨behind, apart⟩ := ih (taken.length - 1) (offset + c.utf8Size)
        -- The characters that are passed over are the rest of what was taken.
        have passed : size taken = c.utf8Size + size (more.take (taken.length - 1)) := by
          obtain ⟨first, rest, rfl⟩ := List.exists_cons_of_ne_nil filled
          obtain ⟨same, inside⟩ := List.cons_prefix_cons.mp front
          rw [size_cons, same, List.length_cons, Nat.add_sub_cancel,
            ← List.prefix_iff_eq_take.mp inside]
        refine ⟨?_, List.pairwise_cons.mpr ⟨?_, apart⟩⟩
        · intro found member
          rw [List.take_zero, size_nil]
          rcases List.mem_cons.mp member with rfl | later
          · exact Nat.le_refl _
          · have bound := behind found later
            omega
        · intro found later
          have bound := behind found later
          simp only [passed]
          omega

/-- What a reader finds in a text does not overlap. -/
theorem pairwise_occurrences {α : Type} {read : Reader α} (takes : TakesFront read) (text : Text) :
    (occurrences read text).Pairwise fun a b => a.start + size a.taken ≤ b.start :=
  (pairwise_occurrencesFrom takes 0 0 text).2

/-- A reader that takes no text within which it could begin again. -/
def ReadsApart {α : Type} (read : Reader α) : Prop :=
  ∀ front rest taken value, read (front ++ rest) = some (taken, value) → front ≠ [] →
    front.length < taken.length → read rest = none

theorem mem_occurrencesFrom_of_read {α : Type} {read : Reader α} (takes : TakesFront read)
    (apart : ReadsApart read) {skip offset : Nat} {front rest taken : Text} {value : α}
    (passed : ∀ inner behind, front ++ rest = inner ++ behind → inner.length < skip →
      read behind = none)
    (here : read rest = some (taken, value)) :
    ⟨offset + size front, taken, value⟩ ∈ occurrencesFrom read skip offset (front ++ rest) := by
  induction front generalizing skip offset with
  | nil =>
    obtain ⟨filled, begins⟩ := takes _ _ _ here
    obtain ⟨c, more, rfl⟩ := List.exists_cons_of_ne_nil (begins.ne_nil filled)
    cases skip with
    | succ later =>
      rw [passed [] (c :: more) rfl (by simp)] at here
      cases here
    | zero =>
      rw [List.nil_append, occurrencesFrom, here]
      exact List.mem_cons_self
  | cons c more ih =>
    have place : offset + size (c :: more) = offset + c.utf8Size + size more := by
      rw [size_cons, Nat.add_assoc]
    rw [place, List.cons_append]
    cases skip with
    | succ later =>
      refine ih fun inner behind shape short => passed (c :: inner) behind ?_ ?_
      · rw [List.cons_append, shape, List.cons_append]
      · rw [List.length_cons]
        omega
    | zero =>
      unfold occurrencesFrom
      cases first : read (c :: (more ++ rest)) with
      | none => exact ih fun inner behind _ short => absurd short (Nat.not_lt_zero _)
      | some found =>
        obtain ⟨before, other⟩ := found
        refine List.mem_cons_of_mem _ (ih fun inner behind shape short => ?_)
        rw [shape, ← List.cons_append] at first
        exact apart (c :: inner) behind before other first (by simp) (by
          rw [List.length_cons]
          omega)

/-- If no reading reaches over another one, everything that can be read is found. -/
theorem mem_occurrences_of_read {α : Type} {read : Reader α} (takes : TakesFront read)
    (apart : ReadsApart read) {front rest taken : Text} {value : α}
    (here : read rest = some (taken, value)) :
    ⟨size front, taken, value⟩ ∈ occurrences read (front ++ rest) := by
  have found := @mem_occurrencesFrom_of_read α read takes apart 0 0 front rest taken value
    (fun inner _ _ short => absurd short (Nat.not_lt_zero inner.length)) here
  rwa [Nat.zero_add] at found

end MessageKeys.Text
