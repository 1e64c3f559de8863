import MessageKeys.Proofs.Call.Rendering
import MessageKeys.Proofs.Text.Bytes

/-!
Where argument lists end.

From an opening parenthesis on, the bytes of a source are read with a count of open parentheses. The
list ends in front of the first byte that brings the count to zero, or with the source if there is
none (`extract_ends_at_first_close`). Up to there more parentheses have been opened than closed, so
that the count is never lowered from zero. The parentheses of a list that is closed balance among
themselves (`count_of_openParens?`), and since only ASCII characters matter, the list is cut between
characters, whatever stands in it.
-/
namespace MessageKeys.Call

open Text

/-! ## Counting characters -/

/-- A list that is closed leaves no parenthesis open, and its closing one follows. -/
theorem beforeClose?_eq_some {depth : Nat} {text list : Text}
    (cut : beforeClose? depth text = some list) :
    openParens? depth list = some 0 ∧ ∃ rest, text = list ++ ')' :: rest := by
  induction text generalizing depth list with
  | nil => cases cut
  | cons c more ih =>
    -- In every case that goes on, the character comes in front of what the rest gives.
    have longer : ∀ {further}, (beforeClose? further more).map (c :: ·) = some list →
        ∃ inner, list = c :: inner ∧ openParens? further inner = some 0 ∧
          ∃ rest, c :: more = list ++ ')' :: rest := by
      intro further later
      obtain ⟨inner, found, rfl⟩ := Option.map_eq_some_iff.mp later
      obtain ⟨closed, rest, rfl⟩ := ih found
      exact ⟨inner, rfl, closed, rest, rfl⟩
    unfold beforeClose? at cut
    split at cut
    · next opens =>
      obtain ⟨inner, rfl, closed, behind⟩ := longer cut
      exact ⟨by simp only [openParens?, if_pos opens, closed], behind⟩
    · next other =>
      split at cut
      · next closes =>
        split at cut
        · cases cut
          exact ⟨rfl, more, by rw [closes]; rfl⟩
        · obtain ⟨inner, rfl, closed, behind⟩ := longer cut
          exact ⟨by simp only [openParens?, if_neg other, if_pos closes, closed], behind⟩
      · next plain =>
        obtain ⟨inner, rfl, closed, behind⟩ := longer cut
        exact ⟨by simp only [openParens?, if_neg other, if_neg plain, closed], behind⟩

/-- In a list that is not closed, parentheses are left open throughout. -/
theorem beforeClose?_eq_none {depth : Nat} {text : Text} (unclosed : beforeClose? depth text = none) :
    ∃ left, openParens? depth text = some left := by
  induction text generalizing depth with
  | nil => exact ⟨depth, rfl⟩
  | cons c more ih =>
    unfold beforeClose? at unclosed
    unfold openParens?
    split at unclosed
    · next opens =>
      rw [if_pos opens]
      exact ih (Option.map_eq_none_iff.mp unclosed)
    · next other =>
      rw [if_neg other]
      split at unclosed
      · next closes =>
        rw [if_pos closes]
        split at unclosed
        · cases unclosed
        · exact ih (Option.map_eq_none_iff.mp unclosed)
      · next plain =>
        rw [if_neg plain]
        exact ih (Option.map_eq_none_iff.mp unclosed)

/-- What is open at the end is what was opened and not closed, and at no place more is closed than
was open. -/
theorem count_of_openParens? {depth left : Nat} {text : Text}
    (counted : openParens? depth text = some left) :
    depth + text.count '(' = left + text.count ')' ∧
      ∀ front, front <+: text → front.count ')' ≤ depth + front.count '(' := by
  induction text generalizing depth with
  | nil =>
    cases counted
    refine ⟨rfl, ?_⟩
    intro front begins
    rw [List.prefix_nil.mp begins]
    exact Nat.zero_le _
  | cons c more ih =>
    -- What holds of the beginnings of the rest is carried over the character.
    have step : ∀ {further}, openParens? further more = some left →
        further + [c].count ')' = depth + [c].count '(' →
        depth + (c :: more).count '(' = left + (c :: more).count ')' ∧
          ∀ front, front <+: c :: more → front.count ')' ≤ depth + front.count '(' := by
      intro further later moved
      obtain ⟨total, below⟩ := ih later
      refine ⟨?_, ?_⟩
      · rw [← List.singleton_append, List.count_append, List.count_append]
        omega
      · intro front begins
        rcases List.prefix_cons_iff.mp begins with rfl | ⟨inner, rfl, inside⟩
        · exact Nat.zero_le _
        · have bound := below inner inside
          rw [← List.singleton_append, List.count_append, List.count_append]
          omega
    unfold openParens? at counted
    split at counted
    · next opens => exact step counted (by rw [opens]; rfl)
    · next other =>
      split at counted
      · next closes =>
        split at counted
        · cases counted
        · exact step counted (by rw [closes]; rfl)
      · next plain =>
        refine step counted ?_
        rw [List.count_singleton, List.count_singleton]
        simp [other, plain]

/-! ## Counting bytes -/

/-- How often a character stands from one byte of a source up to another. -/
def countBetween (mark : Char) (source : Text) (start stop : Nat) : Nat :=
  (((bytes source).drop start).take (stop - start)).count mark.toUInt8

/-- Counted from the parenthesis at byte `openAt`, as many are closed as opened once byte `close` is
read. -/
def BalancesAt (source : Text) (openAt close : Nat) : Prop :=
  openAt < close ∧ close < size source ∧
    countBetween '(' source openAt (close + 1) = countBetween ')' source openAt (close + 1)

instance (source : Text) (openAt close : Nat) : Decidable (BalancesAt source openAt close) :=
  inferInstanceAs (Decidable (_ ∧ _))

/-- The first byte at which parentheses balance. -/
def ClosesAt (source : Text) (openAt close : Nat) : Prop :=
  BalancesAt source openAt close ∧ ∀ earlier < close, ¬BalancesAt source openAt earlier

/-- An argument list that is read from behind a parenthesis up to byte `stop`. -/
structure ReadsTo (source : Text) (openAt stop : Nat) (list : ArgumentList) : Prop where
  offset : list.offset = openAt + 1
  /-- A cut succeeds between characters only. -/
  text : slice? source (openAt + 1) stop = some list.text
  /-- In front of every byte that is read behind the parenthesis, one is open that can be closed. -/
  positive : ∀ position, openAt < position → position ≤ stop →
    countBetween ')' source openAt position < countBetween '(' source openAt position

/-- Behind a parenthesis, characters are counted among the bytes that follow it. -/
theorem countBetween_eq {mark : Char} (ascii : mark.utf8Size = 1) (front rest : Text)
    {position : Nat} (ahead : size front < position) :
    countBetween mark (front ++ '(' :: rest) (size front) position =
      ['('].count mark + ((bytes rest).take (position - size front - 1)).count mark.toUInt8 := by
  obtain ⟨length, further⟩ : ∃ length, position - size front = length + 1 :=
    ⟨position - size front - 1, by omega⟩
  have opening : String.utf8EncodeChar '(' = ['('.toUInt8] := rfl
  have behind : (bytes (front ++ '(' :: rest)).drop (size front) = '('.toUInt8 :: bytes rest := by
    rw [bytes_append, ← length_bytes, List.drop_left, bytes_cons, opening, List.singleton_append]
  rw [countBetween, behind, further, List.take_succ_cons, ← List.singleton_append,
    List.count_append, ← opening, count_utf8EncodeChar ascii, Nat.add_sub_cancel]

/-- Where no more is closed than opened, the parenthesis in front stays open. -/
theorem readsTo_of_below {front list behind : Text} {balanced : Bool}
    (below : ∀ inner, inner <+: list → inner.count ')' ≤ inner.count '(') :
    ReadsTo (front ++ '(' :: (list ++ behind)) (size front) (size front + 1 + size list)
      ⟨list, size front + 1, balanced⟩ := by
  constructor
  · rfl
  · have stands : Stands list (size front + 1) (front ++ '(' :: (list ++ behind)) :=
      ⟨front ++ ['('], behind, by simp, by rw [size_append]; rfl⟩
    exact stands.slice?
  · intro position ahead within
    obtain ⟨inner, begins, counts⟩ :=
      exists_front_of_take_bytes list (position - size front - 1)
    have fewer := below inner begins
    have own : ['('].count ')' = 0 ∧ ['('].count '(' = 1 := ⟨rfl, rfl⟩
    rw [countBetween_eq rfl _ _ ahead, countBetween_eq rfl _ _ ahead, bytes_append,
      List.take_append_of_le_length (by rw [length_bytes]; omega), counts ')' rfl, counts '(' rfl]
    omega

/-- As long as a list is read, its parenthesis is not closed. -/
theorem ReadsTo.not_balancesAt {source : Text} {openAt stop position : Nat} {list : ArgumentList}
    (reads : ReadsTo source openAt stop list) (within : position < stop) :
    ¬BalancesAt source openAt position := by
  rintro ⟨behind, _, same⟩
  have positive := reads.positive (position + 1) (by omega) (by omega)
  omega

/-- Behind a list that balances, its parenthesis is closed. -/
theorem balancesAt_of_count {front list behind : Text} (same : list.count '(' = list.count ')') :
    BalancesAt (front ++ '(' :: (list ++ ')' :: behind)) (size front)
      (size front + 1 + size list) := by
  have parts : list ++ ')' :: behind = (list ++ [')']) ++ behind := by simp
  have length : size front + 1 + size list + 1 - size front - 1 = size (list ++ [')']) := by
    have one : size [')'] = 1 := rfl
    rw [size_append, one]
    omega
  have counts : ∀ mark : Char, mark.utf8Size = 1 →
      countBetween mark (front ++ '(' :: (list ++ ')' :: behind)) (size front)
          (size front + 1 + size list + 1) =
        ['('].count mark + (list ++ [')']).count mark := by
    intro mark ascii
    rw [countBetween_eq ascii _ _ (by omega), parts, length, bytes_append, ← length_bytes,
      List.take_left, count_bytes ascii]
  refine ⟨by omega, ?_, ?_⟩
  · have one : '('.utf8Size = 1 ∧ ')'.utf8Size = 1 := ⟨rfl, rfl⟩
    simp only [size_append, size_cons, one]
    omega
  · have marks : ['('].count '(' + [')'].count '(' = ['('].count ')' + [')'].count ')' := rfl
    rw [counts '(' rfl, counts ')' rfl, List.count_append, List.count_append]
    omega

/-! ## The end of a list -/

/-- The argument list of a parenthesis ends in front of the first byte at which as many parentheses
are closed as were opened, and is closed there; else it goes on to the end of the source. -/
theorem extract_ends_at_first_close {source : Text} {openAt : Nat}
    (opened : (bytes source)[openAt]? = some '('.toUInt8) :
    ((∃ close, BalancesAt source openAt close) →
      ∃ close list, ClosesAt source openAt close ∧
        ArgumentList.extract? source openAt = some list ∧ ReadsTo source openAt close list ∧
        list.balanced = true ∧ list.text.count '(' = list.text.count ')' ∧
        ∀ front, front <+: list.text → front.count ')' ≤ front.count '(') ∧
    ((¬∃ close, BalancesAt source openAt close) →
      ∃ list, ArgumentList.extract? source openAt = some list ∧
        ReadsTo source openAt (size source) list ∧ list.balanced = false) := by
  obtain ⟨front, rest, rfl, rfl⟩ := exists_of_getElem?_bytes rfl opened
  have found := dropBytes?_append front ('(' :: rest)
  simp only [ArgumentList.extract?, found]
  cases cut : beforeClose? 0 rest with
  | some list =>
    obtain ⟨closed, behind, rfl⟩ := beforeClose?_eq_some cut
    obtain ⟨total, below⟩ := count_of_openParens? closed
    simp only [Nat.zero_add] at total below
    have reads := @readsTo_of_below front list (')' :: behind) true below
    have balances := @balancesAt_of_count front list behind total
    refine ⟨?_, fun none => absurd ⟨_, balances⟩ none⟩
    intro _
    exact ⟨_, _, ⟨balances, fun _ earlier => reads.not_balancesAt earlier⟩, rfl, reads, rfl, total,
      below⟩
  | none =>
    obtain ⟨left, counted⟩ := beforeClose?_eq_none cut
    obtain ⟨_, below⟩ := count_of_openParens? counted
    simp only [Nat.zero_add] at below
    have reads := @readsTo_of_below front rest [] false below
    have whole : size front + 1 + size rest = size (front ++ '(' :: rest) := by
      rw [size_through_mark]
    rw [List.append_nil, whole] at reads
    refine ⟨?_, fun _ => ⟨_, rfl, reads, rfl⟩⟩
    rintro ⟨close, balances⟩
    exact absurd balances (reads.not_balancesAt balances.2.1)

/-- A list with a list in it, and one that is not closed, with characters of several bytes. -/
def closedAndUnclosed : Text := "é(a, (キ)) (ф".toList

theorem extract_ends_at_first_close_nested :
    (bytes closedAndUnclosed)[2]? = some '('.toUInt8 ∧
      (∃ close, ClosesAt closedAndUnclosed 2 close ∧
        ReadsTo closedAndUnclosed 2 close ⟨"a, (キ)".toList, 3, true⟩) ∧
      ArgumentList.extract? closedAndUnclosed 2 = some ⟨"a, (キ)".toList, 3, true⟩ ∧
      (bytes closedAndUnclosed)[13]? = some '('.toUInt8 ∧
      ReadsTo closedAndUnclosed 13 16 ⟨['ф'], 14, false⟩ ∧
      ArgumentList.extract? closedAndUnclosed 13 = some ⟨['ф'], 14, false⟩ := by
  have opened : (bytes closedAndUnclosed)[2]? = some '('.toUInt8 := by decide +kernel
  have again : (bytes closedAndUnclosed)[13]? = some '('.toUInt8 := by decide +kernel
  have unclosed : ∀ close < size closedAndUnclosed, ¬BalancesAt closedAndUnclosed 13 close := by
    decide +kernel
  have first : ArgumentList.extract? closedAndUnclosed 2 = some ⟨"a, (キ)".toList, 3, true⟩ := by
    decide +kernel
  have second : ArgumentList.extract? closedAndUnclosed 13 = some ⟨['ф'], 14, false⟩ := by
    decide +kernel
  obtain ⟨close, list, closes, extracted, reads, _⟩ :=
    (extract_ends_at_first_close opened).1 ⟨11, by decide +kernel⟩
  obtain ⟨rest, toEnd, readsRest, _⟩ := (extract_ends_at_first_close again).2
    fun ⟨close, balances⟩ => unclosed close balances.2.1 balances
  rw [first, Option.some.injEq] at extracted
  rw [second, Option.some.injEq] at toEnd
  rw [← extracted] at reads
  rw [← toEnd] at readsRest
  exact ⟨opened, ⟨close, closes, reads⟩, first, again, readsRest, second⟩

end MessageKeys.Call
