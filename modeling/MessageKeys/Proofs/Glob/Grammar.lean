import Mathlib.Data.List.Infix
import MessageKeys.Glob.Walk
import MessageKeys.Proofs.Text.Splitting
import MessageKeys.Proofs.Text.Trimming

/-!
The grammar of glob patterns.

`Writes` says which text writes which tokens, one rule for each kind of token, and reading a pattern
follows it (`ofText_eq_ok_iff`). A slash in brackets is a character of a set, while a glob is cut at
every slash before it is matched. So a pattern can be matched component by component exactly if no
slash stands in brackets (`exists_walk_iff`), and to take a glob from a directory changes nothing
about that: `exists_walk_under_iff`.
-/
namespace MessageKeys

/-- Whether an item is written with a character. -/
def GlobItem.mentions (c : Char) : GlobItem → Bool
  | one a => a == c
  | range low high => low == c || high == c

/-- Whether a token is a set in brackets that is written with a character. -/
def GlobToken.hasInBrackets (c : Char) : GlobToken → Bool
  | oneOf items => items.any (·.mentions c)
  | noneOf items => items.any (·.mentions c)
  | literal _ => false
  | anyChar => false
  | anyText => false
  | anyDirectories => false

namespace GlobPattern

/-- Whether a slash stands in brackets. -/
def bracketsSlash (pattern : GlobPattern) : Bool := pattern.tokens.any (·.hasInBrackets '/')

/-- The tokens that a text writes. Two stars may stand where the text is `free` for them: at the
start of a pattern and behind a slash. -/
inductive Writes : (free : Bool) → Text → List GlobToken → Prop where
  | nothing {free : Bool} : Writes free [] []
  | literal {free : Bool} {c : Char} {rest : Text} {tokens : List GlobToken}
    (plain : c ∉ ['?', '*', '[']) (more : Writes (c == '/') rest tokens) :
    Writes free (c :: rest) (.literal c :: tokens)
  | anyChar {free : Bool} {rest : Text} {tokens : List GlobToken}
    (more : Writes false rest tokens) : Writes free ('?' :: rest) (.anyChar :: tokens)
  | anyText {free : Bool} {rest : Text} {tokens : List GlobToken}
    (alone : rest.head? ≠ some '*') (more : Writes false rest tokens) :
    Writes free ('*' :: rest) (.anyText :: tokens)
  | lastDirectories : Writes true ['*', '*'] [.anyDirectories]
  | anyDirectories {rest : Text} {tokens : List GlobToken} (more : Writes true rest tokens) :
    Writes true ('*' :: '*' :: '/' :: rest) (.anyDirectories :: tokens)
  | oneOf {free : Bool} {first : Char} {inner rest : Text} {tokens : List GlobToken}
    (direct : first ≠ '!') (unclosed : ']' ∉ inner) (more : Writes false rest tokens) :
    Writes free ('[' :: first :: (inner ++ ']' :: rest))
      (.oneOf (items 0 (first :: inner)) :: tokens)
  | noneOf {free : Bool} {first : Char} {inner rest : Text} {tokens : List GlobToken}
    (unclosed : ']' ∉ inner) (more : Writes false rest tokens) :
    Writes free ('[' :: '!' :: first :: (inner ++ ']' :: rest))
      (.noneOf (items 0 (first :: inner)) :: tokens)

section Reading

variable {position : Nat} {last? : Option Char} {text rest front : Text} {tokens : List GlobToken}

/-- Characters that have been read are passed over. -/
theorem tokensFrom_append (position : Nat) (last? : Option Char) (front rest : Text) :
    tokensFrom front.length position last? (front ++ rest) =
      tokensFrom 0 (position + front.length) (front.getLast?.or last?) rest := by
  induction front generalizing position last? with
  | nil => simp
  | cons c more ih =>
    rw [List.cons_append, List.length_cons, tokensFrom, ih]
    cases more <;> simp [Nat.add_assoc, Nat.add_comm 1, List.getLast?_cons]

/-- Characters up to one that closes a set are passed over. -/
theorem tokensFrom_append_cons (position : Nat) (last? : Option Char) (front rest : Text)
    (closing : Char) :
    tokensFrom (front.length + 1) position last? (front ++ closing :: rest) =
      tokensFrom 0 (position + front.length + 1) (some closing) rest := by
  have skipped := tokensFrom_append position last? (front ++ [closing]) rest
  rwa [List.length_append, List.length_singleton, List.append_assoc, List.singleton_append,
    List.getLast?_append_cons, List.getLast?_singleton, Option.some_or, ← Nat.add_assoc] at skipped

theorem readSet?_eq_some {token : GlobToken} {taken : Nat}
    (read : readSet? rest = some (token, taken)) :
    ∃ first inner after, ']' ∉ inner ∧
      (first ≠ '!' ∧ rest = first :: (inner ++ ']' :: after) ∧
          token = .oneOf (items 0 (first :: inner)) ∧ taken = inner.length + 2 ∨
        rest = '!' :: first :: (inner ++ ']' :: after) ∧
          token = .noneOf (items 0 (first :: inner)) ∧ taken = inner.length + 3) := by
  unfold readSet? at read
  split at read
  · next first more =>
    obtain ⟨⟨inner, after⟩, cut, same⟩ := Option.map_eq_some_iff.mp read
    obtain ⟨rfl, unclosed⟩ := Text.cutFirst?_eq_some cut
    cases same
    exact ⟨first, inner, after, unclosed, .inr ⟨rfl, rfl, rfl⟩⟩
  · cases read
  · next first more negated alone =>
    obtain ⟨⟨inner, after⟩, cut, same⟩ := Option.map_eq_some_iff.mp read
    obtain ⟨rfl, unclosed⟩ := Text.cutFirst?_eq_some cut
    cases same
    refine ⟨first, inner, after, unclosed, .inl ⟨?_, rfl, rfl, rfl⟩⟩
    intro mark
    cases inner <;> exact negated _ _ mark rfl
  · cases read

theorem readStars_eq_ok {token : GlobToken} {taken : Nat}
    (read : readStars position last? rest = .ok (token, taken)) :
    rest.head? ≠ some '*' ∧ token = .anyText ∧ taken = 0 ∨
      last?.all (· == '/') = true ∧ token = .anyDirectories ∧
        (rest = ['*'] ∧ taken = 1 ∨ ∃ after, rest = '*' :: '/' :: after ∧ taken = 2) := by
  unfold readStars at read
  split at read
  · next none =>
    cases read
    refine .inl ⟨?_, rfl, rfl⟩
    cases rest with
    | nil => simp
    | cons c more =>
      rintro star
      cases star
      simp at none
  · next one =>
    obtain ⟨after, rfl⟩ : ∃ after, rest = '*' :: after := by
      cases rest with
      | nil => simp at one
      | cons c more =>
        by_cases star : c = '*'
        · exact ⟨more, by rw [star]⟩
        · simp [star] at one
    split at read
    · next free =>
      split at read
      · next nothing =>
        cases read
        have empty : after = [] := nothing
        exact .inr ⟨free, rfl, .inl ⟨by rw [empty], rfl⟩⟩
      · next next more behind =>
        have whole : after = next :: more := behind
        split at read
        · next slash =>
          cases read
          exact .inr ⟨free, rfl, .inr ⟨more, by rw [whole, slash], rfl⟩⟩
        · cases read
    · cases read
  · cases read

theorem tokensFrom_cons_eq_ok {c : Char} :
    tokensFrom 0 position last? (c :: rest) = .ok tokens ↔
      ∃ token taken more, readToken position last? c rest = .ok (token, taken) ∧
        tokensFrom taken (position + 1) (some c) rest = .ok more ∧ tokens = token :: more := by
  rw [tokensFrom]
  constructor
  · intro read
    split at read
    · cases read
    · next token taken here =>
      cases behind : tokensFrom taken (position + 1) (some c) rest with
      | error error => simp [behind, Except.map] at read
      | ok more =>
        simp only [behind, Except.map, Except.ok.injEq] at read
        exact ⟨token, taken, more, here, behind, read.symm⟩
  · rintro ⟨token, taken, more, here, behind, rfl⟩
    simp only [here, behind, Except.map]

/-- Texts of less than so many characters write the tokens that are read from them. -/
def ReadsBelow (length : Nat) : Prop :=
  ∀ {position : Nat} {last? : Option Char} {text : Text} {tokens : List GlobToken},
    text.length < length → tokensFrom 0 position last? text = .ok tokens →
      Writes (last?.all (· == '/')) text tokens

section Tokens

variable {token : GlobToken} {taken : Nat}

theorem writes_of_readStars (shorter : ReadsBelow (rest.length + 1))
    (read : readStars position last? rest = .ok (token, taken))
    (behind : tokensFrom taken (position + 1) (some '*') rest = .ok tokens) :
    Writes (last?.all (· == '/')) ('*' :: rest) (token :: tokens) := by
  rcases readStars_eq_ok read with ⟨alone, rfl, rfl⟩ | ⟨free, rfl, stars⟩
  · exact .anyText alone (shorter (by simp) behind)
  rw [free]
  rcases stars with ⟨rfl, rfl⟩ | ⟨after, rfl, rfl⟩
  · cases behind
    exact .lastDirectories
  · have skipped := tokensFrom_append (position + 1) (some '*') ['*', '/'] after
    exact .anyDirectories (shorter (by simp; omega) (skipped.symm.trans behind))

theorem writes_of_readSet? {free : Bool} (shorter : ReadsBelow (rest.length + 1))
    (read : readSet? rest = some (token, taken))
    (behind : tokensFrom taken (position + 1) (some '[') rest = .ok tokens) :
    Writes free ('[' :: rest) (token :: tokens) := by
  obtain ⟨first, inner, after, unclosed, written⟩ := readSet?_eq_some read
  rcases written with ⟨direct, rfl, rfl, rfl⟩ | ⟨rfl, rfl, rfl⟩
  · have skipped := tokensFrom_append_cons (position + 1) (some '[') (first :: inner) after ']'
    exact .oneOf direct unclosed (shorter (by simp; omega) (skipped.symm.trans behind))
  · have skipped :=
      tokensFrom_append_cons (position + 1) (some '[') ('!' :: first :: inner) after ']'
    exact .noneOf unclosed (shorter (by simp; omega) (skipped.symm.trans behind))

theorem writes_of_readToken {c : Char} (shorter : ReadsBelow (rest.length + 1))
    (read : readToken position last? c rest = .ok (token, taken))
    (behind : tokensFrom taken (position + 1) (some c) rest = .ok tokens) :
    Writes (last?.all (· == '/')) (c :: rest) (token :: tokens) := by
  unfold readToken at read
  split at read
  · next question =>
    cases read
    subst question
    exact .anyChar (shorter (by simp) behind)
  next noQuestion =>
    split at read
    · next star =>
      subst star
      exact writes_of_readStars shorter read behind
    next noStar =>
      split at read
      · next bracket =>
        subst bracket
        split at read
        · next found set =>
          cases read
          exact writes_of_readSet? shorter set behind
        · cases read
      next noBracket =>
        cases read
        exact .literal (by simp [noQuestion, noStar, noBracket]) (shorter (by simp) behind)

end Tokens

/-- What is read as tokens writes them. -/
theorem readsBelow (length : Nat) : ReadsBelow length := by
  induction length with
  | zero =>
    intro position last? text tokens short
    simp at short
  | succ length ih =>
    intro position last? text tokens short read
    cases text with
    | nil =>
      cases read
      exact .nothing
    | cons c rest =>
      obtain ⟨token, taken, more, here, behind, rfl⟩ := tokensFrom_cons_eq_ok.mp read
      have shorter : ReadsBelow (rest.length + 1) := by
        intro position last? text tokens shorter
        rw [List.length_cons] at short
        exact ih (by omega)
      exact writes_of_readToken shorter here behind

/-- Tokens are read where they are written. -/
theorem Writes.tokensFrom_eq {free : Bool} (written : Writes free text tokens)
    (behind : last?.all (· == '/') = free) : tokensFrom 0 position last? text = .ok tokens := by
  induction written generalizing position last? with
  | nothing => rfl
  | @literal free c rest tokens plain more ih =>
    have read : readToken position last? c rest = .ok (.literal c, 0) := by
      simp only [List.mem_cons, List.not_mem_nil, or_false, not_or] at plain
      simp [readToken, plain]
    exact tokensFrom_cons_eq_ok.mpr ⟨_, _, _, read, ih (by simp), rfl⟩
  | @anyChar free rest tokens more ih =>
    have read : readToken position last? '?' rest = .ok (.anyChar, 0) := by simp [readToken]
    exact tokensFrom_cons_eq_ok.mpr ⟨_, _, _, read, ih (by simp), rfl⟩
  | @anyText free rest tokens alone more ih =>
    have read : readToken position last? '*' rest = .ok (.anyText, 0) := by
      cases rest with
      | nil => simp [readToken, readStars]
      | cons c rest =>
        have other : c ≠ '*' := fun star => alone (by rw [star]; rfl)
        simp [readToken, readStars, other]
    exact tokensFrom_cons_eq_ok.mpr ⟨_, _, _, read, ih (by simp), rfl⟩
  | lastDirectories => simp [tokensFrom, readToken, readStars, behind, Except.map]
  | @anyDirectories rest tokens more ih =>
    have read : readToken position last? '*' ('*' :: '/' :: rest) = .ok (.anyDirectories, 2) := by
      simp [readToken, readStars, behind]
    have skipped := tokensFrom_append (position + 1) (some '*') ['*', '/'] rest
    exact tokensFrom_cons_eq_ok.mpr ⟨_, _, _, read, skipped.trans (ih (by simp)), rfl⟩
  | @oneOf free first inner rest tokens direct unclosed more ih =>
    have read : readToken position last? '[' (first :: (inner ++ ']' :: rest)) =
        .ok (.oneOf (items 0 (first :: inner)), inner.length + 2) := by
      simp [readToken, readSet?, direct, Text.cutFirst?_append unclosed]
    have skipped := tokensFrom_append_cons (position + 1) (some '[') (first :: inner) rest ']'
    exact tokensFrom_cons_eq_ok.mpr ⟨_, _, _, read, skipped.trans (ih (by simp)), rfl⟩
  | @noneOf free first inner rest tokens unclosed more ih =>
    have read : readToken position last? '[' ('!' :: first :: (inner ++ ']' :: rest)) =
        .ok (.noneOf (items 0 (first :: inner)), inner.length + 3) := by
      simp [readToken, readSet?, Text.cutFirst?_append unclosed]
    have skipped :=
      tokensFrom_append_cons (position + 1) (some '[') ('!' :: first :: inner) rest ']'
    exact tokensFrom_cons_eq_ok.mpr ⟨_, _, _, read, skipped.trans (ih (by simp)), rfl⟩

/-- A text is a pattern exactly if it writes one. -/
theorem ofText_eq_ok_iff {pattern : GlobPattern} :
    ofText text = .ok pattern ↔ Writes true text pattern.tokens := by
  unfold ofText
  constructor
  · intro read
    cases found : tokensFrom 0 0 none text with
    | error error => simp [found, Except.map] at read
    | ok tokens =>
      simp only [found, Except.map, Except.ok.injEq] at read
      rw [← read]
      exact readsBelow _ (Nat.lt_succ_self text.length) found
  · intro written
    simp only [@Writes.tokensFrom_eq 0 none _ _ _ written rfl, Except.map]

end Reading

section Parts

variable {free : Bool} {c first : Char} {text rest inner : Text} {tokens : List GlobToken}

/-- The items of a set are written with all its characters but the hyphens of ranges. -/
theorem mentions_items (skip : Nat) (text : Text) (loud : c ≠ '-') :
    (items skip text).any (·.mentions c) = true ↔ c ∈ text.drop skip := by
  fun_induction items skip text with
  | case1 => simp
  | case2 a rest later ih => rw [ih, List.drop_succ_cons]
  | case3 a high more ih =>
    rw [List.any_cons, Bool.or_eq_true, ih]
    simp [GlobItem.mentions, loud, @eq_comm _ c, or_assoc]
  | case4 a rest single ih =>
    rw [List.any_cons, Bool.or_eq_true, ih]
    simp [GlobItem.mentions, @eq_comm _ c]

/-- A text that writes some tokens. -/
def Writable (free : Bool) (text : Text) : Prop := ∃ tokens, Writes free text tokens

theorem writable_nil : Writable free [] := ⟨_, .nothing⟩

theorem writable_literal (plain : c ∉ ['?', '*', '[']) :
    Writable free (c :: rest) ↔ Writable (c == '/') rest := by
  constructor
  · rintro ⟨_, written⟩
    cases written with
    | literal _ more => exact ⟨_, more⟩
    | _ => simp at plain
  · rintro ⟨tokens, more⟩
    exact ⟨_, .literal plain more⟩

theorem writable_anyChar : Writable free ('?' :: rest) ↔ Writable false rest := by
  constructor
  · rintro ⟨_, written⟩
    cases written with
    | literal plain _ => simp at plain
    | anyChar more => exact ⟨_, more⟩
  · rintro ⟨tokens, more⟩
    exact ⟨_, .anyChar more⟩

theorem writable_anyText (alone : rest.head? ≠ some '*') :
    Writable free ('*' :: rest) ↔ Writable false rest := by
  constructor
  · rintro ⟨_, written⟩
    cases written with
    | literal plain _ => simp at plain
    | anyText _ more => exact ⟨_, more⟩
    | _ => simp at alone
  · rintro ⟨tokens, more⟩
    exact ⟨_, .anyText alone more⟩

/-- The bracket that closes a set is the first one. -/
theorem rest_eq_of_unclosed {inner' rest' : Text} (unclosed : ']' ∉ inner)
    (unclosed' : ']' ∉ inner') (same : inner ++ ']' :: rest = inner' ++ ']' :: rest') :
    rest = rest' := by
  have cut := Text.cutFirst?_append unclosed rest
  rw [same, Text.cutFirst?_append unclosed' rest'] at cut
  cases cut
  rfl

theorem writable_oneOf (direct : first ≠ '!') (unclosed : ']' ∉ inner) :
    Writable free ('[' :: first :: (inner ++ ']' :: rest)) ↔ Writable false rest := by
  constructor
  · rintro ⟨_, written⟩
    generalize whole : inner ++ ']' :: rest = behind at written
    cases written with
    | literal plain _ => simp at plain
    | oneOf _ unclosed' more =>
      rw [rest_eq_of_unclosed unclosed unclosed' whole]
      exact ⟨_, more⟩
    | noneOf _ _ => exact absurd rfl direct
  · rintro ⟨tokens, more⟩
    exact ⟨_, .oneOf direct unclosed more⟩

theorem writable_noneOf (unclosed : ']' ∉ inner) :
    Writable free ('[' :: '!' :: first :: (inner ++ ']' :: rest)) ↔ Writable false rest := by
  constructor
  · rintro ⟨_, written⟩
    generalize whole : first :: (inner ++ ']' :: rest) = behind at written
    cases written with
    | literal plain _ => simp at plain
    | oneOf direct _ _ => exact absurd rfl direct
    | noneOf unclosed' more =>
      rw [rest_eq_of_unclosed unclosed unclosed' (List.tail_eq_of_cons_eq whole)]
      exact ⟨_, more⟩
  · rintro ⟨tokens, more⟩
    exact ⟨_, .noneOf unclosed more⟩

/-- A bracket that nothing closes writes no set. -/
theorem not_writable_of_unclosed (unclosed : ']' ∉ text.tail) : ¬Writable free ('[' :: text) := by
  rintro ⟨_, written⟩
  cases written with
  | literal plain _ => simp at plain
  | oneOf _ _ _ => simp at unclosed
  | noneOf _ _ => simp at unclosed

theorem not_writable_of_negated_unclosed (unclosed : ']' ∉ text.tail) :
    ¬Writable free ('[' :: '!' :: text) := by
  rintro ⟨_, written⟩
  cases written with
  | literal plain _ => simp at plain
  | oneOf direct _ _ => exact absurd rfl direct
  | noneOf _ _ => simp at unclosed

/-- Texts each of which writes tokens; only the first one does not stand behind a slash. -/
def AreWritable (free : Bool) : List Text → Prop
  | [] => True
  | first :: more => Writable free first ∧ ∀ part ∈ more, Writable true part

/-- What stands in front of a text belongs to its first component. -/
theorem areWritable_append {free' : Bool} {front : Text} (single : '/' ∉ front)
    (goesOn : ∀ part, part <+: rest → (Writable free (front ++ part) ↔ Writable free' part)) :
    AreWritable free (List.splitOn '/' (front ++ rest)) ↔
      AreWritable free' (List.splitOn '/' rest) := by
  obtain ⟨first, more, parts, begins⟩ := Text.splitOn_eq_cons '/' rest
  rw [Text.splitOn_append_of_not_mem single, parts, List.modifyHead_cons, AreWritable, AreWritable,
    goesOn first begins]

theorem areWritable_true_iff {parts : List Text} :
    AreWritable true parts ↔ ∀ part ∈ parts, Writable true part := by
  cases parts with
  | nil => simp [AreWritable]
  | cons first more => rw [AreWritable, List.forall_mem_cons]

/-- A component that ends at a slash. -/
theorem areWritable_append_slash {front : Text} (single : '/' ∉ front) :
    AreWritable free (List.splitOn '/' (front ++ '/' :: rest)) ↔
      Writable free front ∧ AreWritable true (List.splitOn '/' rest) := by
  rw [List.splitOn_append_cons_self, List.splitOn_eq_singleton single, List.singleton_append,
    AreWritable, areWritable_true_iff]

/-- A set with a slash falls apart: the component in front of the slash does not close it. -/
theorem not_areWritable_of_slash {lead : Text} (single : '/' ∉ lead) (unclosed : ']' ∉ inner)
    (slash : '/' ∈ first :: inner)
    (opened : ∀ part, ']' ∉ part.tail → ¬Writable free (lead ++ part)) :
    ¬AreWritable free (List.splitOn '/' (lead ++ first :: (inner ++ ']' :: rest))) := by
  obtain ⟨before, after, cut, absent⟩ := List.eq_append_cons_of_mem slash
  have whole : lead ++ first :: (inner ++ ']' :: rest) =
      (lead ++ before) ++ '/' :: (after ++ ']' :: rest) := by
    rw [← List.cons_append, cut]
    simp
  have inside : ']' ∉ before.tail := by
    cases before with
    | nil => simp
    | cons _ more =>
      rw [List.cons_append, List.cons.injEq] at cut
      rw [cut.2, List.mem_append, not_or] at unclosed
      exact unclosed.1
  rw [whole, areWritable_append_slash (by simp [single, absent])]
  intro writable
  exact opened before inside writable.1

/-- A set stays whole exactly if it holds no slash. -/
theorem areWritable_set {lead : Text} (single : '/' ∉ lead) (unclosed : ']' ∉ inner)
    (opened : ∀ part, ']' ∉ part.tail → ¬Writable free (lead ++ part))
    (closed : ∀ part,
      Writable free (lead ++ first :: (inner ++ ']' :: part)) ↔ Writable false part) :
    AreWritable free (List.splitOn '/' (lead ++ first :: (inner ++ ']' :: rest))) ↔
      '/' ∉ first :: inner ∧ AreWritable false (List.splitOn '/' rest) := by
  by_cases slash : '/' ∈ first :: inner
  · have apart : ¬AreWritable free (List.splitOn '/' (lead ++ first :: (inner ++ ']' :: rest))) :=
      not_areWritable_of_slash single unclosed slash opened
    simp only [apart, slash, not_true, false_and]
  · have whole (part : Text) : lead ++ first :: (inner ++ ']' :: part) =
        (lead ++ first :: (inner ++ [']'])) ++ part := by simp
    have front : '/' ∉ lead ++ first :: (inner ++ [']']) := by
      rw [List.mem_cons, not_or] at slash
      simp [single, slash]
    rw [whole, areWritable_append front fun part _ => (whole part) ▸ closed part]
    simp only [slash, not_false_iff, true_and]

/-- The components of a pattern are patterns exactly if no slash stands in brackets. -/
theorem areWritable_iff {free : Bool} {text : Text} {tokens : List GlobToken}
    (written : Writes free text tokens) :
    AreWritable free (List.splitOn '/' text) ↔
      ∀ token ∈ tokens, token.hasInBrackets '/' = false := by
  induction written with
  | nothing => simp [AreWritable, writable_nil]
  | @literal free c rest tokens plain more ih =>
    rw [List.forall_mem_cons, ← ih]
    by_cases slash : c = '/'
    · have ends := @areWritable_append_slash free rest [] (by simp)
      rw [List.nil_append] at ends
      subst slash
      simp [ends, writable_nil, GlobToken.hasInBrackets]
    · rw [← List.singleton_append, areWritable_append (by simp [Ne.symm slash])
        fun part _ => writable_literal plain]
      simp [GlobToken.hasInBrackets]
  | @anyChar free rest tokens more ih =>
    rw [List.forall_mem_cons, ← ih, ← List.singleton_append,
      areWritable_append (by simp) fun part _ => writable_anyChar]
    simp [GlobToken.hasInBrackets]
  | @anyText free rest tokens alone more ih =>
    have goesOn (part : Text) (begins : part <+: rest) :
        Writable free (['*'] ++ part) ↔ Writable false part := by
      apply writable_anyText
      intro (star : part.head? = some '*')
      obtain ⟨behind, rfl⟩ := begins
      exact alone (by rw [List.head?_append, star, Option.some_or])
    rw [List.forall_mem_cons, ← ih, ← List.singleton_append, areWritable_append (by simp) goesOn]
    simp [GlobToken.hasInBrackets]
  | lastDirectories =>
    have whole : Writable true ['*', '*'] := ⟨_, .lastDirectories⟩
    simp [AreWritable, List.splitOn_eq_singleton, whole, GlobToken.hasInBrackets]
  | @anyDirectories rest tokens more ih =>
    have whole : Writable true ['*', '*'] := ⟨_, .lastDirectories⟩
    have ends := @areWritable_append_slash true rest ['*', '*'] (by simp)
    rw [List.cons_append, List.singleton_append] at ends
    rw [List.forall_mem_cons, ← ih, ends]
    simp [whole, GlobToken.hasInBrackets]
  | @oneOf free first inner rest tokens direct unclosed more ih =>
    have set := @areWritable_set free first rest inner ['['] (by simp) unclosed
      (fun part => not_writable_of_unclosed) fun part => writable_oneOf direct unclosed
    rw [List.forall_mem_cons, ← ih, GlobToken.hasInBrackets, Bool.eq_false_iff, Ne,
      mentions_items 0 _ (by decide)]
    exact set
  | @noneOf free first inner rest tokens unclosed more ih =>
    have set := @areWritable_set free first rest inner ['[', '!'] (by simp) unclosed
      (fun part => not_writable_of_negated_unclosed) fun part => writable_noneOf unclosed
    rw [List.forall_mem_cons, ← ih, GlobToken.hasInBrackets, Bool.eq_false_iff, Ne,
      mentions_items 0 _ (by decide)]
    exact set

end Parts

section Escape

variable {free : Bool} {text rest : Text} {tokens : List GlobToken}

/-- The tokens of a text that stands for itself. -/
def escapedTokens (text : Text) : List GlobToken :=
  text.map fun c => if c ∈ ['?', '*', '[', ']'] then .oneOf [.one c] else .literal c

theorem escape_append (front back : Text) : escape (front ++ back) = escape front ++ escape back :=
  List.flatMap_append

/-- What may stand behind any character may stand behind a slash, too. -/
theorem Writes.relax (written : Writes false text tokens) : Writes free text tokens := by
  cases written with
  | nothing => exact .nothing
  | literal plain more => exact .literal plain more
  | anyChar more => exact .anyChar more
  | anyText alone more => exact .anyText alone more
  | oneOf direct unclosed more => exact .oneOf direct unclosed more
  | noneOf unclosed more => exact .noneOf unclosed more

theorem Writes.escape_append (written : Writes false rest tokens) (text : Text) :
    Writes false (escape text ++ rest) (escapedTokens text ++ tokens) := by
  induction text with
  | nil => exact written
  | cons c more ih =>
    rw [escape, List.flatMap_cons, ← escape, escapedTokens, List.map_cons, ← escapedTokens,
      List.append_assoc, List.cons_append]
    split
    · next special =>
      have direct : c ≠ '!' := by
        rintro rfl
        simp at special
      exact @Writes.oneOf false c [] _ _ direct (by simp) ih
    · next ordinary =>
      simp only [List.mem_cons, List.not_mem_nil, or_false, not_or] at ordinary
      exact .literal (by simp [ordinary]) ih.relax

end Escape

end GlobPattern

namespace Glob

open GlobPattern

/-- A text without the slashes at its end. -/
def withoutEndSlashes (text : Text) : Text := (text.reverse.dropWhile (· == '/')).reverse

theorem withoutEndSlashes_append_slash (text : Text) :
    withoutEndSlashes (text ++ ['/']) = withoutEndSlashes text := by
  simp [withoutEndSlashes]

theorem withoutEndSlashes_append {c : Char} (other : c ≠ '/') (text : Text) :
    withoutEndSlashes (text ++ [c]) = text ++ [c] := by
  simp [withoutEndSlashes, other]

/-- Slashes at the end may be dropped before escaping as well. -/
theorem withoutEndSlashes_escape (text : Text) :
    withoutEndSlashes (escape text) = escape (withoutEndSlashes text) := by
  induction text using List.reverseRecOn with
  | nil => rfl
  | append_singleton front c ih =>
    rw [escape_append]
    by_cases slash : c = '/'
    · have plain : escape ['/'] = ['/'] := rfl
      rw [slash, plain, withoutEndSlashes_append_slash, withoutEndSlashes_append_slash, ih]
    rw [withoutEndSlashes_append slash, escape_append]
    by_cases special : c ∈ ['?', '*', '[', ']']
    · have bracketed : escape [c] = ['[', c] ++ [']'] := by
        rw [escape, List.flatMap_singleton, if_pos special]
        rfl
      rw [bracketed, ← List.append_assoc, withoutEndSlashes_append (by decide)]
    · have plain : escape [c] = [c] := by rw [escape, List.flatMap_singleton, if_neg special]
      rw [plain, withoutEndSlashes_append slash]

theorem under_eq (root glob : Text) :
    under root glob = escape (withoutEndSlashes root) ++ '/' :: glob := by
  rw [← withoutEndSlashes_escape]
  rfl

/-- A glob that is taken from a directory has the tokens of the directory in front. -/
theorem ofText_under {glob : Text} {pattern : GlobPattern} (read : ofText glob = .ok pattern)
    (root : Text) :
    ofText (under root glob) =
      .ok ⟨escapedTokens (withoutEndSlashes root) ++ .literal '/' :: pattern.tokens⟩ := by
  have slash : Writes false ('/' :: glob) (.literal '/' :: pattern.tokens) :=
    .literal (by decide) (ofText_eq_ok_iff.mp read)
  rw [under_eq]
  exact ofText_eq_ok_iff.mpr (slash.escape_append _).relax

theorem bracketsSlash_under (root : Text) (tokens : List GlobToken) :
    (GlobPattern.mk (escapedTokens root ++ .literal '/' :: tokens)).bracketsSlash =
      (GlobPattern.mk tokens).bracketsSlash := by
  have escaped : (escapedTokens root).any (·.hasInBrackets '/') = false := by
    rw [escapedTokens, List.any_map, List.any_eq_false]
    intro c _
    rw [Function.comp_apply]
    split
    · next special =>
      have other : c ≠ '/' := by
        rintro rfl
        simp at special
      simp [GlobToken.hasInBrackets, GlobItem.mentions, other]
    · simp [GlobToken.hasInBrackets]
  rw [bracketsSlash, List.any_append, escaped, Bool.false_or, List.any_cons]
  rfl

theorem exists_patterns_iff (texts : List Text) :
    (∃ steps, patterns texts = .ok steps) ↔ ∀ text ∈ texts, Writable true text := by
  induction texts with
  | nil => simp [patterns]
  | cons text more ih =>
    rw [List.forall_mem_cons, ← ih, patterns]
    cases read : ofText text with
    | error error =>
      have unreadable : ¬Writable true text := by
        rintro ⟨tokens, written⟩
        rw [@ofText_eq_ok_iff text ⟨tokens⟩ |>.mpr written] at read
        cases read
      simp [unreadable]
    | ok pattern =>
      have readable : Writable true text := ⟨_, ofText_eq_ok_iff.mp read⟩
      cases rest : patterns more <;> simp [readable, Except.map]

/-- An empty last text between slashes is no component. -/
theorem forall_components_iff {holds : Text → Prop} (empty : holds []) (glob : Text) :
    (∀ component ∈ components glob, holds component) ↔
      ∀ part ∈ List.splitOn '/' glob, holds part := by
  simp only [components]
  split
  · next last =>
    obtain ⟨front, parts⟩ := List.getLast?_eq_some_iff.mp last
    rw [parts, List.dropLast_concat, List.forall_mem_append, List.forall_mem_singleton]
    simp [empty]
  · rfl

/-- A glob is matched, component by component, exactly if it is a pattern without a slash in
brackets. -/
theorem exists_walk_iff (tree : FileTree) (glob : Text) :
    (∃ places, walk tree glob = .ok places) ↔
      ∃ pattern, ofText glob = .ok pattern ∧ pattern.bracketsSlash = false := by
  unfold walk
  cases read : ofText glob with
  | error error => simp [bind, Except.bind]
  | ok pattern =>
    have written := ofText_eq_ok_iff.mp read
    have apart : (∃ steps, patterns (components glob) = .ok steps) ↔
        pattern.bracketsSlash = false := by
      rw [exists_patterns_iff, forall_components_iff writable_nil, ← areWritable_true_iff,
        areWritable_iff written, bracketsSlash, List.any_eq_false]
      simp
    cases steps : patterns (components glob) with
    | error error =>
      have slashed : pattern.bracketsSlash ≠ false := by simp [← apart, steps]
      simp [bind, Except.bind, slashed]
    | ok found =>
      have slashFree : pattern.bracketsSlash = false := apart.mp ⟨found, steps⟩
      simp only [bind, Except.bind]
      constructor
      · intro _
        exact ⟨pattern, rfl, slashFree⟩
      · intro _
        split <;> exact ⟨_, rfl⟩

/-- The directory that a pattern is taken from does not matter. -/
theorem exists_walk_under_iff {glob : Text} {pattern : GlobPattern}
    (read : ofText glob = .ok pattern) (tree : FileTree) (root : Text) :
    (∃ places, walk tree (under root glob) = .ok places) ↔ pattern.bracketsSlash = false := by
  rw [exists_walk_iff, ofText_under read]
  constructor
  · rintro ⟨whole, same, slashFree⟩
    cases same
    rwa [bracketsSlash_under] at slashFree
  · intro slashFree
    refine ⟨_, rfl, ?_⟩
    rwa [bracketsSlash_under]

end Glob

end MessageKeys
