import MessageKeys.Proofs.Call.Rendering

/-!
The top level of an argument list, said without a reader.

A text is made of literals and of the characters between them. A literal ends at its own quote,
unless a backslash stands just in front of that quote. At the end of a text one is at the top if the
text is made of closed literals (`Unquoted`), and if of each kind of bracket as many are closed as
are opened between them (`EndsAtTop`). `atTop_run_iff` says that the reader of argument lists, which
passes the characters one by one, is at the top exactly then.
-/
namespace MessageKeys.Call

/-- What stands between the quotes of a literal: the quote itself only just behind a backslash, and
at the end no backslash, which would keep the literal open. -/
structure IsLiteralBody (quote : Char) (body : Text) : Prop where
  escaped : ∀ front back, body = front ++ quote :: back → front.getLast? = some '\\'
  ends : body.getLast? ≠ some '\\'

/-- A text of closed literals, and the characters that stand between them. -/
inductive Unquoted : (text bare : Text) → Prop where
  | nil : Unquoted [] []
  | char {c : Char} {text bare : Text} : Quoting.isQuote c = false → Unquoted text bare →
      Unquoted (c :: text) (c :: bare)
  | literal {quote : Char} {body text bare : Text} : Quoting.isQuote quote = true →
      IsLiteralBody quote body → Unquoted text bare → Unquoted (quote :: body ++ quote :: text) bare

/-- How many more brackets of a kind are opened than closed. -/
def excess (opening closing : Char) (text : Text) : Int :=
  text.count opening - text.count closing

/-- At the end of the text no literal is open, and of each kind of bracket as many are closed as are
opened. -/
def EndsAtTop (text : Text) : Prop :=
  ∃ bare, Unquoted text bare ∧ excess '(' ')' bare = 0 ∧ excess '{' '}' bare = 0 ∧
    excess '[' ']' bare = 0

/-! ## Within a literal -/

/-- Whether a backslash is the last character read, `escaped` telling this of what came before. -/
def behindBackslash (escaped : Bool) (text : Text) : Bool :=
  (text.getLast?.map (· == '\\')).getD escaped

@[simp] theorem behindBackslash_nil (escaped : Bool) : behindBackslash escaped [] = escaped := rfl

@[simp] theorem behindBackslash_cons (escaped : Bool) (c : Char) (rest : Text) :
    behindBackslash escaped (c :: rest) = behindBackslash (c == '\\') rest := by
  cases rest with
  | nil => rfl
  | cons second more =>
    rw [behindBackslash, List.getLast?_cons_cons, List.getLast?_eq_some_getLast (by simp),
      behindBackslash, List.getLast?_eq_some_getLast (by simp)]
    rfl

theorem behindBackslash_false_iff (text : Text) :
    behindBackslash false text = true ↔ text.getLast? = some '\\' := by
  cases last : text.getLast? <;> simp [behindBackslash, last]

theorem Scan.step_in_literal {quote c : Char} {escaped : Bool} {parens braces brackets : Int}
    (stays : c = quote → escaped = true) :
    Scan.step ⟨⟨some quote, escaped⟩, parens, braces, brackets⟩ c =
      ⟨⟨some quote, c == '\\'⟩, parens, braces, brackets⟩ := by
  have unclosed : ¬(c = quote ∧ escaped = false) := by
    rintro ⟨same, free⟩
    rw [stays same] at free
    cases free
  simp [Scan.step, Quoting.step, Quoting.isOpen, unclosed]

theorem Scan.step_close (quote : Char) (parens braces brackets : Int) :
    Scan.step ⟨⟨some quote, false⟩, parens, braces, brackets⟩ quote =
      ⟨⟨none, quote == '\\'⟩, parens, braces, brackets⟩ := by
  simp [Scan.step, Quoting.step, Quoting.isOpen]

/-- A literal stays open as long as its quote comes only behind backslashes. -/
theorem Scan.run_body {quote : Char} {body : Text} {escaped : Bool}
    {parens braces brackets : Int}
    (stays : ∀ front back, body = front ++ quote :: back → behindBackslash escaped front = true) :
    Scan.run ⟨⟨some quote, escaped⟩, parens, braces, brackets⟩ body =
      ⟨⟨some quote, behindBackslash escaped body⟩, parens, braces, brackets⟩ := by
  induction body generalizing escaped with
  | nil => rfl
  | cons c rest ih =>
    have first : c = quote → escaped = true := by
      rintro rfl
      exact stays [] rest rfl
    rw [Scan.run_cons, Scan.step_in_literal first, behindBackslash_cons]
    apply ih
    rintro front back rfl
    simpa using stays (c :: front) back rfl

/-- A literal that is closed at some place is closed at the first quote without a backslash. -/
theorem exists_close {quote : Char} {text : Text} {escaped : Bool} {parens braces brackets : Int}
    (closed : (Scan.run ⟨⟨some quote, escaped⟩, parens, braces, brackets⟩ text).quoting.isOpen =
      false) :
    ∃ body rest, text = body ++ quote :: rest ∧ behindBackslash escaped body = false ∧
      ∀ front back, body = front ++ quote :: back → behindBackslash escaped front = true := by
  induction text generalizing escaped with
  | nil => cases closed
  | cons c rest ih =>
    by_cases stays : c = quote → escaped = true
    · rw [Scan.run_cons, Scan.step_in_literal stays] at closed
      obtain ⟨body, behind, rfl, free, kept⟩ := ih closed
      refine ⟨c :: body, behind, rfl, by simpa using free, ?_⟩
      intro front back shape
      rcases List.cons_eq_append_iff.mp shape with ⟨rfl, same⟩ | ⟨more, rfl, inner⟩
      · exact stays (List.cons.inj same).1.symm
      · simpa using kept more back inner
    · obtain ⟨rfl, free⟩ := Classical.not_imp.mp stays
      refine ⟨[], rest, rfl, by simpa using free, ?_⟩
      intro front back shape
      simp at shape

/-! ## Outside literals -/

theorem excess_cons (opening closing c : Char) (text : Text) :
    excess opening closing (c :: text) =
      excess opening closing [c] + excess opening closing text := by
  simp only [excess, List.count_cons, List.count_nil]
  omega

theorem excess_eq_zero {opening closing : Char} {text : Text} (unopened : opening ∉ text)
    (unclosed : closing ∉ text) : excess opening closing text = 0 := by
  rw [excess, List.count_eq_zero.mpr unopened, List.count_eq_zero.mpr unclosed]
  rfl

/-- A character outside literals that opens none only counts as a bracket. -/
theorem Scan.step_bare {c : Char} (bare : Quoting.isQuote c = false) (escaped : Bool)
    (parens braces brackets : Int) :
    Scan.step ⟨⟨none, escaped⟩, parens, braces, brackets⟩ c =
      ⟨⟨none, c == '\\'⟩, parens + excess '(' ')' [c], braces + excess '{' '}' [c],
        brackets + excess '[' ']' [c]⟩ := by
  have quoting : Quoting.step ⟨none, escaped⟩ c = ⟨none, c == '\\'⟩ := by
    simp [Quoting.step, bare]
  unfold Scan.step
  simp only [quoting, Quoting.isOpen, Option.isSome_none, Bool.false_eq_true, if_false]
  split
  all_goals simp_all [excess, Int.sub_eq_add_neg]

theorem Scan.step_open {quote : Char} (opens : Quoting.isQuote quote = true) (escaped : Bool)
    (parens braces brackets : Int) :
    Scan.step ⟨⟨none, escaped⟩, parens, braces, brackets⟩ quote =
      ⟨⟨some quote, false⟩, parens, braces, brackets⟩ := by
  simp only [Quoting.isQuote, Bool.or_eq_true, beq_iff_eq] at opens
  rcases opens with rfl | rfl <;> rfl

/-- The characters that a reader takes notice of. -/
def marks : List Char := ['"', '\'', '\\', '(', ')', '{', '}', '[', ']']

theorem not_mem_marks {holds : Char → Bool} (apart : marks.any holds = false) {c : Char}
    (here : holds c = true) : c ∉ marks := by
  intro member
  rw [List.any_eq_true.mpr ⟨c, member, here⟩] at apart
  cases apart

theorem isQuote_of_not_mem_marks {c : Char} (plain : c ∉ marks) : Quoting.isQuote c = false := by
  simp only [marks, List.mem_cons, not_or] at plain
  simp [Quoting.isQuote, plain]

theorem afterBackslash_of_not_mem_marks {c : Char} (plain : c ∉ marks) : (c == '\\') = false := by
  simp only [marks, List.mem_cons, not_or] at plain
  simp [plain]

/-- A literal that is open was opened by a quote. -/
def Scan.OpenedByQuote (scan : Scan) : Prop :=
  ∀ quote, scan.quoting.delimiter = some quote → Quoting.isQuote quote = true

/-- Any other character neither opens nor closes anything. -/
theorem Scan.step_plain {scan : Scan} (opened : scan.OpenedByQuote) {c : Char}
    (plain : c ∉ marks) :
    scan.step c = { scan with quoting := ⟨scan.quoting.delimiter, false⟩ } := by
  have free := afterBackslash_of_not_mem_marks plain
  have unopening := isQuote_of_not_mem_marks plain
  have uncounted : ∀ opening ∈ marks, ∀ closing ∈ marks, excess opening closing [c] = 0 := by
    intro opening one closing two
    apply excess_eq_zero
    · rw [List.mem_singleton]
      rintro rfl
      exact plain one
    · rw [List.mem_singleton]
      rintro rfl
      exact plain two
  obtain ⟨⟨delimiter, escaped⟩, parens, braces, brackets⟩ := scan
  cases delimiter with
  | none =>
    rw [Scan.step_bare unopening, free, uncounted '(' (by decide) ')' (by decide),
      uncounted '{' (by decide) '}' (by decide), uncounted '[' (by decide) ']' (by decide)]
    simp only [Int.add_zero]
  | some quote =>
    rw [Scan.step_in_literal, free]
    rintro rfl
    rw [opened c rfl] at unopening
    cases unopening

/-- A reader passes closed literals and counts the brackets between them. -/
theorem Unquoted.run {text bare : Text} (reads : Unquoted text bare) (escaped : Bool)
    (parens braces brackets : Int) :
    ∃ after, Scan.run ⟨⟨none, escaped⟩, parens, braces, brackets⟩ text =
      ⟨⟨none, after⟩, parens + excess '(' ')' bare, braces + excess '{' '}' bare,
        brackets + excess '[' ']' bare⟩ := by
  induction reads generalizing escaped parens braces brackets with
  | nil => exact ⟨escaped, by simp [excess]⟩
  | @char c text bare plain _ ih =>
    rw [Scan.run_cons, Scan.step_bare plain]
    obtain ⟨after, ends⟩ := ih _ _ _ _
    refine ⟨after, ?_⟩
    rw [ends, excess_cons '(' ')' c bare, excess_cons '{' '}' c bare, excess_cons '[' ']' c bare]
    simp only [Int.add_assoc]
  | @literal quote body text bare opens within _ ih =>
    have stays : ∀ front back, body = front ++ quote :: back →
        behindBackslash false front = true := by
      intro front back shape
      exact (behindBackslash_false_iff front).mpr (within.escaped front back shape)
    have free : behindBackslash false body = false :=
      Bool.eq_false_iff.mpr fun behind => within.ends ((behindBackslash_false_iff body).mp behind)
    rw [List.cons_append, Scan.run_cons, Scan.step_open opens, Scan.run_append, Scan.run_body stays,
      free, Scan.run_cons, Scan.step_close]
    exact ih _ _ _ _

/-- A text that a reader leaves outside literals is made of closed ones. -/
theorem exists_unquoted {text : Text} {escaped : Bool} {parens braces brackets : Int}
    (closed : (Scan.run ⟨⟨none, escaped⟩, parens, braces, brackets⟩ text).quoting.isOpen = false) :
    ∃ bare, Unquoted text bare := by
  match text with
  | [] => exact ⟨[], .nil⟩
  | c :: rest =>
    rw [Scan.run_cons] at closed
    cases kind : Quoting.isQuote c with
    | false =>
      rw [Scan.step_bare kind] at closed
      obtain ⟨bare, reads⟩ := exists_unquoted closed
      exact ⟨c :: bare, .char kind reads⟩
    | true =>
      rw [Scan.step_open kind] at closed
      obtain ⟨body, behind, rfl, free, stays⟩ := exists_close closed
      rw [Scan.run_append, Scan.run_body stays, free, Scan.run_cons, Scan.step_close] at closed
      obtain ⟨bare, reads⟩ := exists_unquoted closed
      refine ⟨bare, .literal kind ⟨?_, ?_⟩ reads⟩
      · intro front back shape
        exact (behindBackslash_false_iff front).mp (stays front back shape)
      · intro last
        rw [(behindBackslash_false_iff body).mpr last] at free
        cases free
termination_by text.length

/-- A reader is at the top exactly if the literals it has passed are closed and the brackets between
them balance. -/
theorem atTop_run_iff (text : Text) : (Scan.start.run text).atTop = true ↔ EndsAtTop text := by
  constructor
  · intro top
    obtain ⟨after, ends⟩ := Scan.atTop_iff.mp top
    have closed : (Scan.start.run text).quoting.isOpen = false := by rw [ends]; rfl
    obtain ⟨bare, reads⟩ := exists_unquoted closed
    obtain ⟨_, counted⟩ := reads.run false 0 0 0
    have same := ends.symm.trans counted
    simp only [Scan.mk.injEq, Int.zero_add] at same
    exact ⟨bare, reads, same.2.1.symm, same.2.2.1.symm, same.2.2.2.symm⟩
  · rintro ⟨bare, reads, parens, braces, brackets⟩
    obtain ⟨after, counted⟩ := reads.run false 0 0 0
    rw [parens, braces, brackets] at counted
    exact Scan.atTop_iff.mpr ⟨after, counted⟩

end MessageKeys.Call
