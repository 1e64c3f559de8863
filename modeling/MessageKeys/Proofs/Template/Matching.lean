import MessageKeys.Proofs.Reference.Places
import MessageKeys.Template.Placeholder

/-!
Matches of a pattern: numbers in braces.

The machine of the pattern follows at most one match: what comes next is a digit, a closing brace or
an opening one, and no character is two of these. Where a match that is being followed fails, the
machine goes on as if it had not begun (`search_opened`, `search_digits`). So the leftmost match
begins at the first brace that a number and a closing brace follow (`search_eq`). A match holds no
other opening brace, hence none of the numbers in braces is lost to the matches before it
(`mem_findAll_iff`).
-/
namespace MessageKeys.Template

open Regex

/-! ## The machine -/

def opening : CodeRanges := .single '{'.toNat

def closing : CodeRanges := .single '}'.toNat

def digit : CodeRanges := [('0'.toNat, '9'.toNat)]

/-- Digits between braces. The digits are the group. -/
def pattern : Regex :=
  .seq (.char opening) (.seq (.group 1 (.repeated (.char digit) 1 none true)) (.char closing))

/-- The steps of the pattern, the last one first. -/
def machine : Program :=
  ⟨#[.done, .take closing 0, .groupStop 1, .fork 4 2, .take digit 3, .groupStart 4,
    .take opening 5], 6⟩

theorem ofRegex_pattern : Program.ofRegex pattern = machine := rfl

section Steps

@[simp] theorem machine_size : machine.steps.size = 7 := rfl

@[simp] theorem machine_start : machine.start = 6 := rfl

@[simp] theorem machine_done : machine.steps[0]? = some .done := rfl

@[simp] theorem machine_closing : machine.steps[1]? = some (.take closing 0) := rfl

@[simp] theorem machine_groupStop : machine.steps[2]? = some (.groupStop 1) := rfl

@[simp] theorem machine_fork : machine.steps[3]? = some (.fork 4 2) := rfl

@[simp] theorem machine_digit : machine.steps[4]? = some (.take digit 3) := rfl

@[simp] theorem machine_groupStart : machine.steps[5]? = some (.groupStart 4) := rfl

@[simp] theorem machine_opening : machine.steps[6]? = some (.take opening 5) := rfl

end Steps

theorem has_single (mark c : Char) :
    CodeRanges.has (.single mark.toNat) c.toNat = decide (c = mark) := by
  rw [CodeRanges.single, CodeRanges.has, CodeRanges.has]
  by_cases same : c = mark
  · simp [same]
  · have different : c.toNat ≠ mark.toNat := fun equal => same (Char.toNat_inj.mp equal)
    simp only [same, decide_false]
    split
    · rfl
    · rw [if_neg (by omega)]

@[simp] theorem has_opening (c : Char) : opening.has c.toNat = decide (c = '{') := has_single '{' c

@[simp] theorem has_closing (c : Char) : closing.has c.toNat = decide (c = '}') := has_single '}' c

@[simp] theorem has_digit (c : Char) : digit.has c.toNat = Text.isDigit c := by
  have bounds : Text.isDigit c = (decide (48 ≤ c.toNat) && decide (c.toNat ≤ 57)) := rfl
  have ranges : digit.has c.toNat =
      if c.toNat < 48 then false else if c.toNat ≤ 57 then true else false := rfl
  rw [bounds, ranges]
  by_cases low : c.toNat < 48
  · simp [low, Nat.not_le.mpr low]
  · simp [low, Nat.not_lt.mp low]

@[simp] theorem isDigit_opening : Text.isDigit '{' = false := rfl

@[simp] theorem isDigit_closing : Text.isDigit '}' = false := rfl

theorem ne_of_isDigit {c : Char} (isDigit : Text.isDigit c = true) : c ≠ '{' ∧ c ≠ '}' := by
  constructor <;> rintro rfl <;> cases isDigit

/-! ## The leftmost match -/

theorem index_after (place : Place) (c : Char) : (place.after c).index = place.index + 1 := rfl

section Search

variable (place : Place) (start opened : Nat) (c : Char) (rest : Text)

theorem search_nil : search machine place [] none [] = none := by
  simp [search, follow, advance]

/-- Without a match that is being followed, one may begin. -/
theorem search_cons :
    search machine place [] none (c :: rest) =
      if c = '{' then search machine (place.after c) [⟨5, place.index, 0, none⟩] none rest
      else search machine (place.after c) [] none rest := by
  rw [search]
  by_cases opens : c = '{' <;> simp [follow, advance, opens]

theorem search_opened_nil : search machine place [⟨5, start, 0, none⟩] none [] = none := by
  simp [search, follow, advance]

/-- Behind the opening brace a digit has to come. -/
theorem search_opened :
    search machine place [⟨5, start, 0, none⟩] none (c :: rest) =
      if Text.isDigit c then
        search machine (place.after c) [⟨3, start, place.index, none⟩] none rest
      else search machine place [] none (c :: rest) := by
  rw [search_cons, search]
  by_cases isDigit : Text.isDigit c = true
  · simp [follow, advance, isDigit, ne_of_isDigit isDigit]
  · by_cases opens : c = '{' <;> simp [follow, advance, isDigit, opens]

theorem search_digits_nil : search machine place [⟨3, start, opened, none⟩] none [] = none := by
  simp [search, follow, advance]

/-- Behind the closing brace the match is complete. -/
theorem search_closed (kept? : Option (Nat × Nat)) :
    search machine place [⟨0, start, opened, kept?⟩] none rest =
      some ⟨start, place.index, kept?⟩ := by
  cases rest <;> simp [search, follow, advance]

/-- Behind a digit another one or the closing brace has to come. -/
theorem search_digits :
    search machine place [⟨3, start, opened, none⟩] none (c :: rest) =
      if Text.isDigit c then
        search machine (place.after c) [⟨3, start, opened, none⟩] none rest
      else if c = '}' then some ⟨start, place.index + 1, some (opened, place.index)⟩
      else search machine place [] none (c :: rest) := by
  rw [search_cons, search]
  by_cases isDigit : Text.isDigit c = true
  · simp [follow, advance, isDigit, ne_of_isDigit isDigit]
  · by_cases closes : c = '}'
    · simp [follow, advance, closes, search_closed, Place.after]
    · by_cases opens : c = '{' <;> simp [follow, advance, isDigit, closes, opens]

end Search

/-- The digits that a text begins with, if there are some and a closing brace follows them. -/
def number? (afterBrace : Text) : Option Text :=
  let digits := afterBrace.takeWhile Text.isDigit
  if digits ≠ [] ∧ (afterBrace.dropWhile Text.isDigit).head? = some '}' then some digits else none

theorem search_digits_eq (place : Place) (start opened : Nat) (rest : Text) :
    search machine place [⟨3, start, opened, none⟩] none rest =
      if (rest.dropWhile Text.isDigit).head? = some '}' then
        let stop := place.index + (rest.takeWhile Text.isDigit).length
        some ⟨start, stop + 1, some (opened, stop)⟩
      else search machine place [] none rest := by
  induction rest generalizing place with
  | nil => rw [search_digits_nil, search_nil, List.dropWhile_nil, List.head?_nil, if_neg (by simp)]
  | cons c rest ih =>
    rw [search_digits]
    by_cases isDigit : Text.isDigit c = true
    · rw [if_pos isDigit, ih, List.dropWhile_cons_of_pos isDigit,
        List.takeWhile_cons_of_pos isDigit, search_cons, if_neg (ne_of_isDigit isDigit).1]
      have further : (place.after c).index + (rest.takeWhile Text.isDigit).length =
          place.index + (c :: rest.takeWhile Text.isDigit).length := by
        rw [index_after, List.length_cons]
        omega
      rw [further]
    · rw [if_neg isDigit, List.dropWhile_cons_of_neg isDigit, List.takeWhile_cons_of_neg isDigit,
        List.head?_cons]
      simp only [Option.some.injEq, List.length_nil, Nat.add_zero]

theorem search_opened_eq (place : Place) (start : Nat) (rest : Text) :
    search machine place [⟨5, start, 0, none⟩] none rest =
      match number? rest with
      | some digits =>
        some ⟨start, place.index + digits.length + 1,
          some (place.index, place.index + digits.length)⟩
      | none => search machine place [] none rest := by
  cases rest with
  | nil => rw [search_opened_nil, number?, List.takeWhile_nil, if_neg (by simp), search_nil]
  | cons c rest =>
    rw [search_opened, number?]
    by_cases isDigit : Text.isDigit c = true
    · have filled : (c :: rest).takeWhile Text.isDigit ≠ [] := by simp [isDigit]
      have skipped : search machine place [] none (c :: rest) =
          search machine (place.after c) [] none rest := by
        rw [search_cons, if_neg (ne_of_isDigit isDigit).1]
      rw [if_pos isDigit, search_digits_eq, skipped, List.dropWhile_cons_of_pos isDigit]
      have further : (place.after c).index + (rest.takeWhile Text.isDigit).length =
          place.index + ((c :: rest).takeWhile Text.isDigit).length := by
        rw [List.takeWhile_cons_of_pos isDigit, index_after, List.length_cons]
        omega
      rw [further]
      by_cases closes : (rest.dropWhile Text.isDigit).head? = some '}'
      · rw [if_pos closes, if_pos ⟨filled, closes⟩]
      · rw [if_neg closes, if_neg fun both => closes both.2]
    · rw [if_neg isDigit, List.takeWhile_cons_of_neg isDigit, if_neg (by simp)]

/-- The leftmost match begins at the first brace that digits and a closing brace follow. -/
theorem search_eq (place : Place) (c : Char) (rest : Text) :
    search machine place [] none (c :: rest) =
      match if c = '{' then number? rest else none with
      | some digits =>
        some ⟨place.index, place.index + 1 + digits.length + 1,
          some (place.index + 1, place.index + 1 + digits.length)⟩
      | none => search machine (place.after c) [] none rest := by
  rw [search_cons]
  by_cases opens : c = '{'
  · rw [if_pos opens, if_pos opens, search_opened_eq]
    rfl
  · rw [if_neg opens, if_neg opens]

/-! ## All matches -/

theorem number?_eq_some_iff {afterBrace digits : Text} :
    number? afterBrace = some digits ↔
      digits ≠ [] ∧ (∀ c ∈ digits, Text.isDigit c = true) ∧
        ∃ back, afterBrace = digits ++ '}' :: back := by
  unfold number?
  have parts : afterBrace.takeWhile Text.isDigit ++ afterBrace.dropWhile Text.isDigit =
      afterBrace := List.takeWhile_append_dropWhile
  constructor
  · intro found
    dsimp only at found
    split at found
    next both =>
      cases found
      obtain ⟨back, rest⟩ := List.head?_eq_some_iff.mp both.2
      exact ⟨both.1, fun c member => List.all_eq_true.mp List.all_takeWhile c member, back,
        by rw [← rest, parts]⟩
    · cases found
  · rintro ⟨filled, allDigits, back, rfl⟩
    have taken : (digits ++ '}' :: back).takeWhile Text.isDigit = digits := by
      rw [List.takeWhile_append_of_pos allDigits, List.takeWhile_cons_of_neg (by simp),
        List.append_nil]
    have dropped : (digits ++ '}' :: back).dropWhile Text.isDigit = '}' :: back := by
      rw [List.dropWhile_append_of_pos allDigits, List.dropWhile_cons_of_neg (by simp)]
    dsimp only
    rw [taken, dropped, if_pos ⟨filled, rfl⟩]

/-- Behind `front` a text has a number in braces. -/
def Braced (text front digits : Text) : Prop :=
  ∃ rest, text = front ++ '{' :: rest ∧ number? rest = some digits

/-- What does not begin with a number in braces has one behind its first character or none. -/
theorem braced_cons {c : Char} {rest front digits : Text}
    (other : (if c = '{' then number? rest else none) = none) :
    Braced (c :: rest) front digits ↔ ∃ more, front = c :: more ∧ Braced rest more digits := by
  constructor
  · rintro ⟨back, whole, number⟩
    cases front with
    | nil =>
      rw [List.nil_append, List.cons.injEq] at whole
      obtain ⟨rfl, rfl⟩ := whole
      rw [if_pos rfl, number] at other
      cases other
    | cons first more =>
      rw [List.cons_append, List.cons.injEq] at whole
      obtain ⟨rfl, whole⟩ := whole
      exact ⟨more, rfl, back, whole, number⟩
  · rintro ⟨more, rfl, back, rfl, number⟩
    exact ⟨back, rfl, number⟩

/-- A number in braces hides no other: behind its opening brace there is none before its end. -/
theorem braced_of_number {digits back front other : Text}
    (number : number? (digits ++ '}' :: back) = some digits) :
    Braced ('{' :: (digits ++ '}' :: back)) front other ↔
      front = [] ∧ other = digits ∨
        ∃ more, front = '{' :: (digits ++ '}' :: more) ∧ Braced back more other := by
  obtain ⟨_, allDigits, _⟩ := number?_eq_some_iff.mp number
  have plain : '{' ∉ digits ++ ['}'] := by
    rw [List.mem_append, List.mem_singleton]
    rintro (inside | same)
    · cases allDigits _ inside
    · cases same
  constructor
  · rintro ⟨rest, whole, alsoNumber⟩
    cases front with
    | nil =>
      rw [List.nil_append, List.cons.injEq] at whole
      rw [← whole.2, number, Option.some.injEq] at alsoNumber
      exact .inl ⟨rfl, alsoNumber.symm⟩
    | cons first front =>
      rw [List.cons_append, List.cons.injEq] at whole
      obtain ⟨rfl, whole⟩ := whole
      have divided : (digits ++ ['}']) ++ back = front ++ '{' :: rest := by
        rw [List.append_assoc, List.singleton_append, whole]
      rcases List.append_eq_append_iff.mp divided with
        ⟨more, rfl, behind⟩ | ⟨between, inside, behind⟩
      · exact .inr ⟨more, by simp, rest, behind, alsoNumber⟩
      · cases between with
        | nil =>
          refine .inr ⟨[], by simpa using inside.symm, rest, ?_, alsoNumber⟩
          exact behind.symm
        | cons c between =>
          rw [List.cons_append, List.cons.injEq] at behind
          exact absurd (by simp [inside, ← behind.1]) plain
  · rintro (⟨rfl, rfl⟩ | ⟨more, rfl, rest, rfl, alsoNumber⟩)
    · exact ⟨_, rfl, number⟩
    · exact ⟨rest, by simp, alsoNumber⟩

/-- A match keeps its group and ends behind the place from which it was searched. -/
theorem exists_of_search {place : Place} {text : Text} {found : Match}
    (matched : search machine place [] none text = some found) :
    place.index < found.stop ∧
      ∃ start stop, found.kept? = some (start, stop) ∧ place.index < start := by
  induction text generalizing place with
  | nil =>
    rw [search_nil] at matched
    cases matched
  | cons c rest ih =>
    rw [search_eq] at matched
    split at matched
    · cases matched
      exact ⟨by simp only; omega, _, _, rfl, by omega⟩
    · obtain ⟨further, start, stop, kept, behind⟩ := ih matched
      rw [index_after] at further behind
      exact ⟨by omega, start, stop, kept, by omega⟩

theorem capture_cons {place : Place} {start : Nat} (behind : place.index < start) (c : Char)
    (rest : Text) (stop : Nat) :
    place.capture (c :: rest) start stop = (place.after c).capture rest start stop := by
  have skipped : start - place.index = start - (place.index + 1) + 1 := by omega
  simp only [Place.capture, skipped, List.take_succ_cons, List.drop_succ_cons, Text.size_cons,
    Place.after, Nat.add_assoc]

/-- Where no match begins, the search goes on behind the character. -/
theorem findFrom_cons {c : Char} {rest : Text}
    (other : (if c = '{' then number? rest else none) = none) (fuel : Nat) (place : Place)
    (ended : Bool) :
    findFrom machine (fuel + 1) place ended (c :: rest) =
      findFrom machine (fuel + 1) (place.after c) false rest := by
  simp only [findFrom, search_eq, other]
  cases matched : search machine (place.after c) [] none rest with
  | none => rfl
  | some found =>
    obtain ⟨further, start, stop, kept, behind⟩ := exists_of_search matched
    rw [index_after] at further behind
    have passed : found.stop - place.index = found.stop - (place.index + 1) + 1 := by omega
    simp only [Bool.false_eq_true, false_and, if_false]
    rw [if_neg (by omega), kept, Option.map_some, Option.map_some,
      capture_cons (by omega : place.index < start), index_after, passed, List.take_succ_cons,
      List.drop_succ_cons, List.foldl_cons]

/-- A match at the beginning is found, and the search goes on behind it. -/
theorem findFrom_number {digits back : Text}
    (number : number? (digits ++ '}' :: back) = some digits) (fuel : Nat) (place : Place)
    (ended : Bool) :
    ∃ next : Place, next.offset = place.offset + Text.size ('{' :: (digits ++ ['}'])) ∧
      findFrom machine (fuel + 1) place ended ('{' :: (digits ++ '}' :: back)) =
        some ⟨place.offset + 1, digits⟩ :: findFrom machine fuel next true back := by
  refine ⟨('{' :: (digits ++ ['}'])).foldl Place.after place, offset_foldl_after _ _, ?_⟩
  have whole : '{' :: (digits ++ '}' :: back) = '{' :: (digits ++ ['}']) ++ back := by simp
  have length : ('{' :: (digits ++ ['}'])).length =
      place.index + 1 + digits.length + 1 - place.index := by
    simp only [List.length_cons, List.length_append, List.length_nil]
    omega
  have kept : place.capture ('{' :: (digits ++ '}' :: back)) (place.index + 1)
      (place.index + 1 + digits.length) = ⟨place.offset + 1, digits⟩ := by
    simp only [Place.capture, Nat.add_sub_cancel_left, List.take_succ_cons, List.take_zero,
      List.drop_succ_cons, List.drop_zero, List.take_left]
    rfl
  rw [findFrom, search_eq, if_pos rfl, number]
  dsimp only
  rw [if_neg (by omega), Option.map_some, kept, ← length, whole, List.take_left, List.drop_left]

/-- The capture of a number in braces, in a text that begins at a place. -/
def Captures (place : Place) (text : Text) (kept? : Option Capture) : Prop :=
  ∃ front digits, Braced text front digits ∧
    kept? = some ⟨place.offset + Text.size front + 1, digits⟩

theorem captures_cons {c : Char} {rest : Text}
    (other : (if c = '{' then number? rest else none) = none) (place : Place)
    (kept? : Option Capture) :
    Captures place (c :: rest) kept? ↔ Captures (place.after c) rest kept? := by
  have shifted : ∀ more : Text, (place.after c).offset + Text.size more =
      place.offset + Text.size (c :: more) := fun _ => Nat.add_assoc _ _ _
  constructor
  · rintro ⟨front, digits, braced, rfl⟩
    obtain ⟨more, rfl, later⟩ := (braced_cons other).mp braced
    exact ⟨more, digits, later, by rw [shifted]⟩
  · rintro ⟨front, digits, braced, rfl⟩
    exact ⟨c :: front, digits, (braced_cons other).mpr ⟨front, rfl, braced⟩, by rw [shifted]⟩

theorem captures_number {digits back : Text}
    (number : number? (digits ++ '}' :: back) = some digits) {place next : Place}
    (behind : next.offset = place.offset + Text.size ('{' :: (digits ++ ['}'])))
    (kept? : Option Capture) :
    Captures place ('{' :: (digits ++ '}' :: back)) kept? ↔
      kept? = some ⟨place.offset + 1, digits⟩ ∨ Captures next back kept? := by
  have shifted : ∀ more : Text, next.offset + Text.size more =
      place.offset + Text.size ('{' :: (digits ++ '}' :: more)) := by
    intro more
    simp only [behind, Text.size_cons, Text.size_append, Text.size_nil, Nat.add_zero,
      Nat.add_assoc]
  constructor
  · rintro ⟨front, other, braced, rfl⟩
    rcases (braced_of_number number).mp braced with ⟨rfl, rfl⟩ | ⟨more, rfl, later⟩
    · exact .inl rfl
    · exact .inr ⟨more, other, later, by rw [shifted]⟩
  · rintro (rfl | ⟨more, other, braced, rfl⟩)
    · exact ⟨[], digits, (braced_of_number number).mpr (.inl ⟨rfl, rfl⟩), rfl⟩
    · exact ⟨_, other, (braced_of_number number).mpr (.inr ⟨more, rfl, braced⟩),
        by rw [shifted]⟩

/-- The machine finds all numbers in braces, whatever stands between them. -/
theorem mem_findFrom_iff {fuel : Nat} {place : Place} {ended : Bool} {text : Text}
    (enough : text.length < fuel) {kept? : Option Capture} :
    kept? ∈ findFrom machine fuel place ended text ↔ Captures place text kept? := by
  induction shorter : text.length using Nat.strongRecOn generalizing fuel place ended text with
  | ind length ih =>
    subst shorter
    obtain ⟨fuel, rfl⟩ : ∃ less, fuel = less + 1 := ⟨fuel - 1, by omega⟩
    cases text with
    | nil =>
      rw [findFrom, search_nil]
      constructor
      · intro member
        cases member
      · rintro ⟨front, digits, ⟨rest, whole, _⟩, _⟩
        simp at whole
    | cons c rest =>
      rw [List.length_cons] at enough ih
      cases begins : if c = '{' then number? rest else none with
      | none =>
        rw [findFrom_cons begins, captures_cons begins, ih rest.length (by omega) (by omega) rfl]
      | some digits =>
        obtain ⟨rfl, number⟩ : c = '{' ∧ number? rest = some digits := by
          split at begins
          next opens => exact ⟨opens, begins⟩
          · cases begins
        obtain ⟨_, _, back, rfl⟩ := number?_eq_some_iff.mp number
        obtain ⟨next, behind, found⟩ := findFrom_number number fuel place ended
        have less : back.length < (digits ++ '}' :: back).length := by
          rw [List.length_append, List.length_cons]
          omega
        rw [found, List.mem_cons, captures_number number behind,
          ih back.length (by omega) (by omega) rfl]

theorem mem_findAll_iff {text : Text} {kept? : Option Capture} :
    kept? ∈ pattern.findAll text ↔
      ∃ front digits, Braced text front digits ∧ kept? = some ⟨Text.size front + 1, digits⟩ := by
  have offset : Place.first.offset = 0 := rfl
  rw [findAll, ofRegex_pattern, mem_findFrom_iff (by omega), Captures, offset]
  simp only [Nat.zero_add]

end MessageKeys.Template
