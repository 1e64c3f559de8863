import MessageKeys.Proofs.Call.KeyPosition
import MessageKeys.Proofs.Text.Splitting

/-!
Calls that are written and read back.

`render` writes a call of a method: its name, and between parentheses the key as a literal and the
arguments. Three readers go over such a text. The first finds the call, the second counts
parentheses, in literals too, to find the end of the argument list, and the third cuts the list at
its top-level commas. An argument is closed if it leaves the last two where they were, and
`sites_render` says that a call with closed arguments is read back as it was written.
-/
namespace MessageKeys.Call

/-- The reader after a whole text. -/
def Scan.run (scan : Scan) (text : Text) : Scan := text.foldl Scan.step scan

@[simp] theorem Scan.run_nil (scan : Scan) : scan.run [] = scan := rfl

@[simp] theorem Scan.run_cons (scan : Scan) (c : Char) (rest : Text) :
    scan.run (c :: rest) = (scan.step c).run rest := rfl

theorem Scan.run_append (scan : Scan) (a b : Text) : scan.run (a ++ b) = (scan.run a).run b :=
  List.foldl_append

/-- Whether no comma of the text stands at the top for a reader that begins with `scan`. -/
def lacksTopComma (scan : Scan) : Text → Bool
  | [] => true
  | c :: rest => !(c == ',' && scan.atTop) && lacksTopComma (scan.step c) rest

/-- How many parentheses are open after a text, in literals too, where `depth` were open before it;
`none` if one is closed that was not opened. -/
def openParens? (depth : Nat) : Text → Option Nat
  | [] => some depth
  | c :: rest =>
    if c = '(' then openParens? (depth + 1) rest
    else if c = ')' then
      match depth with
      | 0 => none
      | outer + 1 => openParens? outer rest
    else openParens? depth rest

/-- Every parenthesis that is closed was opened before, and all are closed. -/
def BalancesParens (text : Text) : Prop := openParens? 0 text = some 0

instance (text : Text) : Decidable (BalancesParens text) := inferInstanceAs (Decidable (_ = _))

/-- A text that a reader passes from the top to the top without a cut. -/
structure KeepsTop (text : Text) : Prop where
  ends_at_top : (Scan.start.run text).atTop = true
  lacks_top_comma : lacksTopComma .start text = true

/-- An argument that neither ends its list nor runs into the next argument. -/
structure IsClosed (text : Text) : Prop extends KeepsTop text where
  filled : text ≠ []
  trimmed : Text.IsTrimmed text
  balances_parens : BalancesParens text

/-- A key as a literal. -/
def literal (key : Text) : Text := '"' :: key ++ ['"']

/-- The argument list of a call: the key and then its arguments. -/
def renderList (key : Text) (arguments : List Text) : Text :=
  Text.join [',', ' '] (literal key :: arguments)

/-- A call as it is written. -/
def render (name key : Text) (arguments : List Text) : Text :=
  name ++ '(' :: renderList key arguments ++ [')']

/-! ## Counting parentheses -/

theorem openParens?_append (depth : Nat) (a b : Text) :
    openParens? depth (a ++ b) = (openParens? depth a).bind (openParens? · b) := by
  induction a generalizing depth with
  | nil => rfl
  | cons c rest ih =>
    simp only [List.cons_append, openParens?]
    split
    · exact ih _
    · split
      · cases depth with
        | zero => rfl
        | succ outer => exact ih outer
      · exact ih _

/-- A list goes on over a text that leaves parentheses open, or none. -/
theorem beforeClose?_append {depth left : Nat} {text : Text}
    (counted : openParens? depth text = some left) (rest : Text) :
    beforeClose? depth (text ++ rest) = (beforeClose? left rest).map (text ++ ·) := by
  induction text generalizing depth with
  | nil =>
    cases counted
    simp
  | cons c more ih =>
    simp only [openParens?] at counted
    simp only [List.cons_append, beforeClose?]
    split at counted
    · next opened =>
      rw [if_pos opened, ih counted]
      simp [Function.comp_def]
    · next notOpened =>
      rw [if_neg notOpened]
      split at counted
      · next closed =>
        rw [if_pos closed]
        cases depth with
        | zero => cases counted
        | succ outer =>
          dsimp only at counted ⊢
          rw [ih counted]
          simp [Function.comp_def]
      · next notClosed =>
        rw [if_neg notClosed, ih counted]
        simp [Function.comp_def]

theorem beforeClose?_of_balancesParens {text : Text} (balanced : BalancesParens text)
    (rest : Text) : beforeClose? 0 (text ++ ')' :: rest) = some text := by
  rw [beforeClose?_append balanced]
  simp [beforeClose?]

theorem balancesParens_append {a b : Text} (first : BalancesParens a) (second : BalancesParens b) :
    BalancesParens (a ++ b) := by
  rw [BalancesParens, openParens?_append, first]
  exact second

theorem balancesParens_join {texts : List Text} (each : ∀ text ∈ texts, BalancesParens text) :
    BalancesParens (Text.join [',', ' '] texts) := by
  fun_induction Text.join [',', ' '] texts with
  | case1 => rfl
  | case2 last => exact each last (by simp)
  | case3 first second more ih =>
    refine balancesParens_append (balancesParens_append (each first (by simp)) (by decide)) ?_
    exact ih fun text member => each text (List.mem_cons_of_mem _ member)

/-! ## Cutting at commas -/

theorem Scan.atTop_iff {scan : Scan} :
    scan.atTop = true ↔ ∃ escaped, scan = ⟨⟨none, escaped⟩, 0, 0, 0⟩ := by
  obtain ⟨⟨delimiter, escaped⟩, parens, braces, brackets⟩ := scan
  constructor
  · intro top
    simp only [atTop, Quoting.isOpen, Bool.and_eq_true, Bool.not_eq_true', beq_iff_eq] at top
    obtain ⟨⟨⟨closed, rfl⟩, rfl⟩, rfl⟩ := top
    cases delimiter with
    | none => exact ⟨escaped, rfl⟩
    | some quote => cases closed
  · rintro ⟨other, same⟩
    cases same
    rfl

/-- What a reader at the top does next does not depend on what it has read. -/
theorem Scan.step_of_atTop {scan : Scan} (top : scan.atTop = true) (c : Char) :
    scan.step c = Scan.start.step c := by
  obtain ⟨escaped, rfl⟩ := Scan.atTop_iff.mp top
  rfl

theorem segments_of_atTop {scan : Scan} (top : scan.atTop = true) (text : Text) :
    segments scan text = segments .start text := by
  cases text with
  | nil => rfl
  | cons c rest =>
    have begun : Scan.start.atTop = true := rfl
    simp only [segments, Scan.step_of_atTop top, top, begun]

/-- A reader at the top passes a text as one that begins with it does. -/
theorem Scan.run_of_atTop {scan : Scan} (top : scan.atTop = true) {text : Text}
    (filled : text ≠ []) : scan.run text = Scan.start.run text := by
  obtain ⟨c, rest, rfl⟩ := List.exists_cons_of_ne_nil filled
  rw [Scan.run_cons, Scan.step_of_atTop top, Scan.run_cons]

theorem atTop_run_of_atTop {scan : Scan} (top : scan.atTop = true) (text : Text) :
    (scan.run text).atTop = (Scan.start.run text).atTop := by
  by_cases empty : text = []
  · rw [empty]
    exact top
  · rw [Scan.run_of_atTop top empty]

theorem lacksTopComma_of_atTop {scan : Scan} (top : scan.atTop = true) (text : Text) :
    lacksTopComma scan text = lacksTopComma .start text := by
  cases text with
  | nil => rfl
  | cons c rest =>
    have begun : Scan.start.atTop = true := rfl
    simp only [lacksTopComma, Scan.step_of_atTop top, top, begun]

theorem KeepsTop.blank_cons {text : Text} (keeps : KeepsTop text) : KeepsTop (' ' :: text) := by
  have moved : (Scan.start.step ' ').atTop = true := rfl
  refine ⟨(atTop_run_of_atTop moved text).trans keeps.ends_at_top, ?_⟩
  simpa [lacksTopComma] using (lacksTopComma_of_atTop moved text).trans keeps.lacks_top_comma

theorem lacksTopComma_cons_iff {scan : Scan} {c : Char} {rest : Text} :
    lacksTopComma scan (c :: rest) = true ↔
      ¬(c = ',' ∧ scan.atTop = true) ∧ lacksTopComma (scan.step c) rest = true := by
  rw [lacksTopComma, Bool.and_eq_true, Bool.not_eq_true', ← Bool.not_eq_true, Bool.and_eq_true,
    beq_iff_eq]

theorem lacksTopComma_iff {scan : Scan} {text : Text} :
    lacksTopComma scan text = true ↔
      ∀ front back, text = front ++ ',' :: back → (scan.run front).atTop = false := by
  induction text generalizing scan with
  | nil => simp [lacksTopComma]
  | cons c rest ih =>
    rw [lacksTopComma_cons_iff, ih]
    constructor
    · rintro ⟨uncut, later⟩ front back shape
      rcases List.cons_eq_append_iff.mp shape with ⟨rfl, same⟩ | ⟨more, rfl, inner⟩
      · exact Bool.eq_false_iff.mpr fun top => uncut ⟨(List.cons.inj same).1.symm, top⟩
      · exact later more back inner
    · intro below
      refine ⟨?_, ?_⟩
      · rintro ⟨rfl, top⟩
        have here := below [] rest rfl
        rw [Scan.run_nil, top] at here
        cases here
      · rintro front back rfl
        exact below (c :: front) back rfl

/-- A text without top-level commas goes to the front of the first segment of what follows it. -/
theorem segments_append {scan : Scan} {text rest first : Text} {more : List Text}
    (lacks : lacksTopComma scan text = true)
    (cut : segments (scan.run text) rest = first :: more) :
    segments scan (text ++ rest) = (text ++ first) :: more := by
  induction text generalizing scan with
  | nil => simpa using cut
  | cons c others ih =>
    obtain ⟨uncut, later⟩ := lacksTopComma_cons_iff.mp lacks
    rw [List.cons_append, segments, if_neg uncut, ih later cut]
    rfl

theorem segments_of_lacksTopComma {scan : Scan} {text : Text}
    (lacks : lacksTopComma scan text = true) : segments scan text = [text] := by
  have single : segments (scan.run text) [] = [[]] := rfl
  simpa using segments_append lacks single

theorem segments_comma_of_keepsTop {text : Text} (keeps : KeepsTop text) (rest : Text) :
    segments .start (text ++ ',' :: rest) = text :: segments .start rest := by
  have moved : ((Scan.start.run text).step ',').atTop = true := by
    rw [Scan.step_of_atTop keeps.ends_at_top]
    rfl
  have cut : segments (Scan.start.run text) (',' :: rest) = [] :: segments .start rest := by
    rw [segments, if_pos ⟨rfl, keeps.ends_at_top⟩, segments_of_atTop moved]
  simpa using segments_append keeps.lacks_top_comma cut

/-- Texts that lead from the top to the top, and one that is not cut, are cut at the commas that
join them. -/
theorem segments_join_commas {front : List Text} {tail : Text}
    (each : ∀ text ∈ front, KeepsTop text) (last : lacksTopComma .start tail = true) :
    segments .start (Text.join [','] (front ++ [tail])) = front ++ [tail] := by
  induction front with
  | nil => exact segments_of_lacksTopComma last
  | cons text more ih =>
    obtain ⟨keeps, others⟩ := List.forall_mem_cons.mp each
    have joined : Text.join [','] (text :: more ++ [tail]) =
        text ++ ',' :: Text.join [','] (more ++ [tail]) := by
      rw [show text :: more ++ [tail] = [text] ++ (more ++ [tail]) from rfl,
        Text.join_append [','] (by simp) (by simp)]
      simp [Text.join]
    rw [joined, segments_comma_of_keepsTop keeps, ih others]
    rfl

/-- All segments become pieces, except a blank one at the end. -/
theorem texts_pieces (start : Nat) (front : List Text) (tail : Text) :
    (pieces start (front ++ [tail])).map (·.text) =
      front.map Text.trim ++ if Text.trim tail = [] then [] else [Text.trim tail] := by
  induction front generalizing start with
  | nil =>
    rw [List.nil_append, pieces, List.map_nil, List.nil_append]
    split <;> rfl
  | cons segment more ih =>
    obtain ⟨next, others, shape⟩ := List.exists_cons_of_ne_nil (by simp : more ++ [tail] ≠ [])
    have rest := ih (start + Text.size segment + 1)
    rw [shape] at rest
    rw [List.cons_append, shape, pieces, List.map_cons, rest]
    · rfl
    · simp

/-- The texts between commas are read back, trimmed, if the last one is not blank. -/
theorem texts_arguments_join {front : List Text} {tail : Text}
    (each : ∀ text ∈ front, KeepsTop text) (last : lacksTopComma .start tail = true)
    (filled : Text.trim tail ≠ []) :
    (arguments (Text.join [','] (front ++ [tail]))).map (·.text) =
      (front ++ [tail]).map Text.trim := by
  rw [arguments, segments_join_commas each last, texts_pieces, if_neg filled]
  simp

/-- If all of them lead from the top to the top and none is blank, all are read back, trimmed. -/
theorem texts_arguments_of_keepsTop {texts : List Text} (each : ∀ text ∈ texts, KeepsTop text)
    (filled : ∀ text ∈ texts, Text.trim text ≠ []) :
    (arguments (Text.join [','] texts)).map (·.text) = texts.map Text.trim := by
  rcases List.eq_nil_or_concat texts with rfl | ⟨front, tail, rfl⟩
  · rfl
  · rw [List.concat_eq_append] at each filled ⊢
    obtain ⟨others, single⟩ := List.forall_mem_append.mp each
    have last := (single tail List.mem_cons_self).lacks_top_comma
    exact texts_arguments_join others last (filled tail (by simp))

theorem expressions_text (list : Text) :
    (expressions list).map (·.text) = (arguments list).map (·.text) := by
  simp [expressions, Expression.ofPiece, Function.comp_def]

theorem join_comma_blank (first : Text) (more : List Text) :
    Text.join [',', ' '] (first :: more) = Text.join [','] (first :: more.map (' ' :: ·)) := by
  rw [Text.join_cons_flatMap, Text.join_cons_flatMap, List.flatMap_map]
  rfl

/-- Closed texts that are joined with commas and blanks are read back as arguments. -/
theorem expressions_join {first : Text} {more : List Text} (head : IsClosed first)
    (tail : ∀ text ∈ more, IsClosed text) :
    (expressions (Text.join [',', ' '] (first :: more))).map (·.text) = first :: more := by
  have trims : (first :: more.map (' ' :: ·)).map Text.trim = first :: more := by
    rw [List.map_cons, head.trimmed,
      Text.map_trim_blank_cons fun text member => (tail text member).trimmed]
  rw [expressions_text, join_comma_blank, texts_arguments_of_keepsTop, trims]
  · intro text member
    rcases List.mem_cons.mp member with rfl | later
    · exact head.toKeepsTop
    · obtain ⟨inner, inside, rfl⟩ := List.mem_map.mp later
      exact (tail inner inside).toKeepsTop.blank_cons
  · intro text member
    have inside : Text.trim text ∈ first :: more := by
      rw [← trims]
      exact List.mem_map_of_mem member
    rcases List.mem_cons.mp inside with same | later
    · rw [same]
      exact head.filled
    · exact (tail _ later).filled

/-! ## The literal of the key -/

/-- A reader in a literal stays there as long as the literal's quote does not come. -/
theorem run_in_literal {key : Text} (unquoted : '"' ∉ key) (escaped : Bool) :
    Scan.run ⟨⟨some '"', escaped⟩, 0, 0, 0⟩ key =
      ⟨⟨some '"', (key.getLast?.map (· == '\\')).getD escaped⟩, 0, 0, 0⟩ ∧
      lacksTopComma ⟨⟨some '"', escaped⟩, 0, 0, 0⟩ key = true := by
  induction key generalizing escaped with
  | nil => exact ⟨rfl, rfl⟩
  | cons c rest ih =>
    rw [List.mem_cons, not_or] at unquoted
    have moved : Scan.step ⟨⟨some '"', escaped⟩, 0, 0, 0⟩ c =
        ⟨⟨some '"', c == '\\'⟩, 0, 0, 0⟩ := by
      simp [Scan.step, Quoting.step, Quoting.isOpen, Ne.symm unquoted.1]
    obtain ⟨ends, lacks⟩ := ih unquoted.2 (c == '\\')
    have inside : Scan.atTop ⟨⟨some '"', escaped⟩, 0, 0, 0⟩ = false := rfl
    refine ⟨?_, ?_⟩
    · rw [Scan.run_cons, moved, ends]
      cases rest with
      | nil => rfl
      | cons second more =>
        rw [List.getLast?_cons_cons, List.getLast?_eq_some_getLast (by simp)]
        rfl
    · rw [lacksTopComma, moved, lacks, inside]
      simp

theorem lacksTopComma_append (scan : Scan) (a b : Text) :
    lacksTopComma scan (a ++ b) = (lacksTopComma scan a && lacksTopComma (scan.run a) b) := by
  induction a generalizing scan with
  | nil => rfl
  | cons c rest ih => simp [lacksTopComma, ih, Bool.and_assoc]

/-- A key without quotes that does not end in a backslash makes a closed literal. -/
theorem isClosed_literal {key : Text} (unquoted : '"' ∉ key) (unescaped : key.getLast? ≠ some '\\')
    (balanced : BalancesParens key) : IsClosed (literal key) := by
  have opened : Scan.start.step '"' = ⟨⟨some '"', false⟩, 0, 0, 0⟩ := rfl
  have last : (key.getLast?.map (· == '\\')).getD false = false := by
    cases found : key.getLast? with
    | none => rfl
    | some c =>
      rw [found, ne_eq, Option.some.injEq] at unescaped
      simpa using unescaped
  obtain ⟨ends, lacks⟩ := run_in_literal unquoted false
  rw [last] at ends
  have whole : Scan.start.run (literal key) = ⟨⟨none, false⟩, 0, 0, 0⟩ := by
    rw [literal, List.cons_append, Scan.run_cons, opened, Scan.run_append, ends]
    rfl
  constructor
  · refine ⟨by rw [whole]; rfl, ?_⟩
    rw [literal, List.cons_append, lacksTopComma, opened, lacksTopComma_append, lacks, ends]
    rfl
  · simp [literal]
  · exact Text.isTrimmed_of_ends (by decide) (by decide) key
  · have quoted : BalancesParens (['"'] ++ key ++ ['"']) :=
      balancesParens_append (balancesParens_append (by decide) balanced) (by decide)
    exact quoted

theorem unquote_literal (key : Text) : unquote (literal key) = (key, 1) := by
  rw [literal, List.cons_append]
  simp [unquote, Text.dropTail_append]

/-! ## Finding the call -/

/-- A call that stands at the beginning of a text is the first one found there. -/
theorem invocations_of_call (name : MethodName) (rest : Text) :
    ∃ more, invocations name (name.text ++ '(' :: rest) = ⟨name.text ++ ['('], 0⟩ :: more := by
  have read := readInvocation_append name (List.forall_mem_nil _) rest
  rw [List.append_nil] at read
  obtain ⟨c, front, named⟩ := List.exists_cons_of_ne_nil name.nonempty
  rw [named, List.cons_append] at read
  rw [invocations, Text.occurrences, named, List.cons_append, Text.occurrencesFrom, read,
    List.map_cons]
  exact ⟨_, rfl⟩

/-- The argument list of a call that is closed again. -/
theorem extract?_of_call (name list suffix : Text) (balanced : BalancesParens list) :
    ArgumentList.extract? (name ++ '(' :: (list ++ ')' :: suffix)) (Text.size name) =
      some ⟨list, Text.size name + 1, true⟩ := by
  rw [ArgumentList.extract?, Text.dropBytes?_append]
  simp [beforeClose?_of_balancesParens balanced]

end MessageKeys.Call
