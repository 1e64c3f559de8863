import MessageKeys.Proofs.Call.ArrayOpening
import MessageKeys.Proofs.Call.Rejoining
import MessageKeys.Proofs.Call.Supply

/-!
Array initializers that are written and read back.

Two readers go over an initializer: one counts braces to find where it ends, the other cuts it at
commas, for which it counts all kinds of brackets. An element leads the second from the top to the
top without closing a brace that it did not open (`StaysInside`). So it does to a list of elements,
and the first reader, whose count is the second's count of braces (`initializerBody_append`), passes
the list and stops at the brace behind it.
-/
namespace MessageKeys.Call

open Text

/-- The elements of an array initializer as they stand between its braces. -/
def writeElements (elements : List Text) : Text :=
  Text.join [','] (elements.map (' ' :: ·)) ++ [' ']

/-- The type of an array and the brace that opens its initializer. -/
def writeOpening (type : Text) : Text := ['n', 'e', 'w', ' '] ++ (type ++ ['[', ']', ' ', '{'])

/-- An array initializer as it is written. -/
def writeArray (type : Text) (elements : List Text) : Text :=
  writeOpening type ++ (writeElements elements ++ ['}'])

/-- A text that leads a reader from the top to the top and closes no brace that it did not open. -/
structure StaysInside (text : Text) : Prop where
  ends_at_top : (Scan.start.run text).atTop = true
  braces_nonneg : ∀ front, front <+: text → 0 ≤ (Scan.start.run front).braces

/-- An element of an initializer that neither ends it nor runs into the next element. -/
structure IsElement (text : Text) : Prop extends KeepsTop text, StaysInside text where
  filled : text ≠ []
  trimmed : IsTrimmed text

/-! ## Texts that stay inside -/

theorem braces_run_of_atTop {scan : Scan} (top : scan.atTop = true) (text : Text) :
    (scan.run text).braces = (Scan.start.run text).braces := by
  by_cases empty : text = []
  · obtain ⟨escaped, rfl⟩ := Scan.atTop_iff.mp top
    rw [empty]
    rfl
  · rw [Scan.run_of_atTop top empty]

theorem Scan.start_step_plain {c : Char} (plain : c ∉ marks) : Scan.start.step c = Scan.start :=
  Scan.step_plain (Scan.openedByQuote_run []) plain

/-- A character that a reader takes no notice of changes nothing. -/
theorem StaysInside.cons {c : Char} {text : Text} (plain : c ∉ marks) (stays : StaysInside text) :
    StaysInside (c :: text) := by
  have moved : (Scan.start.step c).atTop = true := by
    rw [Scan.start_step_plain plain]
    rfl
  refine ⟨(atTop_run_of_atTop moved text).trans stays.ends_at_top, ?_⟩
  intro front begins
  rcases List.prefix_cons_iff.mp begins with rfl | ⟨more, rfl, further⟩
  · exact Int.le_refl 0
  · rw [Scan.run_cons, braces_run_of_atTop moved]
    exact stays.braces_nonneg more further

theorem StaysInside.append {a b : Text} (first : StaysInside a) (second : StaysInside b) :
    StaysInside (a ++ b) := by
  refine ⟨?_, ?_⟩
  · rw [Scan.run_append, atTop_run_of_atTop first.ends_at_top]
    exact second.ends_at_top
  · rintro front ⟨back, whole⟩
    rcases List.append_eq_append_iff.mp whole with ⟨more, rfl, _⟩ | ⟨more, rfl, rfl⟩
    · exact first.braces_nonneg front (List.prefix_append _ _)
    · rw [Scan.run_append, braces_run_of_atTop first.ends_at_top]
      exact second.braces_nonneg more (List.prefix_append _ _)

theorem staysInside_nil : StaysInside [] := by
  refine ⟨rfl, ?_⟩
  intro front begins
  rw [List.prefix_nil.mp begins]
  exact Int.le_refl 0

theorem staysInside_join {texts : List Text} (each : ∀ text ∈ texts, StaysInside text) :
    StaysInside (Text.join [','] texts) := by
  fun_induction Text.join [','] texts with
  | case1 => exact staysInside_nil
  | case2 last => exact each last (by simp)
  | case3 first second more ih =>
    rw [List.append_assoc]
    refine (each first (by simp)).append (.cons (by decide) ?_)
    exact ih fun text member => each text (List.mem_cons_of_mem _ member)

theorem staysInside_writeElements {elements : List Text}
    (each : ∀ element ∈ elements, IsElement element) : StaysInside (writeElements elements) := by
  refine (staysInside_join ?_).append (.cons (by decide) staysInside_nil)
  intro text member
  obtain ⟨element, inside, rfl⟩ := List.mem_map.mp member
  exact .cons (by decide) (each element inside).toStaysInside

/-! ## The end of the initializer -/

theorem Scan.braces_step (scan : Scan) (c : Char) :
    (scan.step c).braces =
      if scan.quoting.isOpen then scan.braces
      else if c = '{' then scan.braces + 1
      else if c = '}' then scan.braces - 1
      else scan.braces := by
  unfold Scan.step
  dsimp only
  split
  · rfl
  · split <;> simp_all

/-- An initializer goes on unless its brace is closed. -/
theorem initializerBody_cons {scan : Scan} (nonneg : 0 ≤ scan.braces) (c : Char) (rest : Text) :
    (c = '}' ∧ scan.quoting.isOpen = false ∧ scan.braces = 0 ∧
      initializerBody scan.braces.toNat scan.quoting (c :: rest) = []) ∨
    (0 ≤ (scan.step c).braces ∧
      initializerBody scan.braces.toNat scan.quoting (c :: rest) =
        c :: initializerBody (scan.step c).braces.toNat (scan.step c).quoting rest) := by
  rw [initializerBody.eq_def, Scan.quoting_step, Scan.braces_step]
  dsimp only
  split
  · exact .inr ⟨nonneg, rfl⟩
  · next outside =>
    split
    · refine .inr ⟨by omega, ?_⟩
      rw [Int.toNat_add nonneg (by decide)]
      rfl
    · split
      · next closes =>
        by_cases none : scan.braces = 0
        · refine .inl ⟨closes, by simpa using outside, none, ?_⟩
          rw [none]
          rfl
        · have inner : scan.braces.toNat = (scan.braces - 1).toNat + 1 := by omega
          refine .inr ⟨by omega, ?_⟩
          rw [inner]
      · exact .inr ⟨nonneg, rfl⟩

/-- As long as no brace is closed that was not opened, the initializer goes on. -/
theorem initializerBody_append {scan : Scan} {text : Text}
    (nonneg : ∀ front, front <+: text → 0 ≤ (scan.run front).braces) (rest : Text) :
    initializerBody scan.braces.toNat scan.quoting (text ++ rest) =
      text ++ initializerBody (scan.run text).braces.toNat (scan.run text).quoting rest := by
  induction text generalizing scan with
  | nil => rfl
  | cons c more ih =>
    have now : 0 ≤ scan.braces := nonneg [] (by simp)
    have next : 0 ≤ (scan.step c).braces := nonneg [c] (by simp)
    have later := @ih (scan.step c) fun front begins =>
      nonneg (c :: front) (List.cons_prefix_cons.mpr ⟨rfl, begins⟩)
    rcases initializerBody_cons now c (more ++ rest) with ⟨rfl, outside, none, _⟩ | ⟨_, goesOn⟩
    · rw [Scan.braces_step, outside, none] at next
      exact absurd next (by decide)
    · rw [List.cons_append, goesOn, later, Scan.run_cons, List.cons_append]

/-- The initializer ends at the brace behind a text that stays inside it. -/
theorem initializerBody_of_staysInside {text : Text} (stays : StaysInside text) (rest : Text) :
    initializerBody 0 .start (text ++ '}' :: rest) = text := by
  have passed := initializerBody_append stays.braces_nonneg ('}' :: rest)
  obtain ⟨escaped, ends⟩ := Scan.atTop_iff.mp stays.ends_at_top
  rw [ends] at passed
  have stopped : initializerBody 0 ⟨none, escaped⟩ ('}' :: rest) = [] := rfl
  refine passed.trans ?_
  rw [show Int.toNat 0 = 0 from rfl, stopped, List.append_nil]

/-! ## The initializer as an argument -/

/-- The reader within one more brace. -/
def Scan.inBrace (scan : Scan) : Scan := { scan with braces := scan.braces + 1 }

theorem Scan.inBrace_step (scan : Scan) (c : Char) :
    scan.inBrace.step c = (scan.step c).inBrace := by
  unfold Scan.step Scan.inBrace
  dsimp only
  split
  · rfl
  · split <;> simp

theorem Scan.inBrace_run (scan : Scan) (text : Text) :
    scan.inBrace.run text = (scan.run text).inBrace := by
  induction text generalizing scan with
  | nil => rfl
  | cons c rest ih => rw [Scan.run_cons, Scan.run_cons, Scan.inBrace_step, ih]

theorem Scan.atTop_inBrace {scan : Scan} (nonneg : 0 ≤ scan.braces) :
    scan.inBrace.atTop = false := by
  have below : scan.braces + 1 ≠ 0 := by omega
  simp [Scan.atTop, Scan.inBrace, below]

/-- The commas of a text that stays inside a brace are not at the top. -/
theorem StaysInside.lacksTopComma_inBrace {text : Text} (stays : StaysInside text) :
    lacksTopComma Scan.start.inBrace text = true := by
  rw [lacksTopComma_iff]
  rintro front back rfl
  rw [Scan.inBrace_run]
  exact Scan.atTop_inBrace (stays.braces_nonneg front (List.prefix_append _ _))

/-! ## Reading back -/

theorem isTypePart_of_mem_join {names : List Text}
    (identifiers : ∀ name ∈ names, isIdentifier name = true) :
    ∀ c ∈ Text.join ['.'] names, (isIdentifierPart c || c == '.') = true := by
  apply forall_mem_join
  · simp
  · intro name member c inside
    rw [identifierParts_of_isIdentifier (identifiers name member) c inside]
    rfl

theorem Scan.start_run_plain {text : Text} (plain : ∀ c ∈ text, c ∉ marks) :
    Scan.start.run text = Scan.start := by
  induction text with
  | nil => rfl
  | cons c rest ih =>
    obtain ⟨here, others⟩ := List.forall_mem_cons.mp plain
    rw [Scan.run_cons, Scan.start_step_plain here, ih others]

/-- A reader passes the opening into the brace. -/
theorem run_writeOpening {names : List Text}
    (identifiers : ∀ name ∈ names, isIdentifier name = true) :
    Scan.start.run (writeOpening (Text.join ['.'] names)) = Scan.start.inBrace := by
  have parts := isTypePart_of_mem_join identifiers
  have new : Scan.start.run ['n', 'e', 'w', ' '] = Scan.start := rfl
  have type : Scan.start.run (Text.join ['.'] names) = Scan.start :=
    Scan.start_run_plain fun c member =>
      @not_mem_marks (fun c => isIdentifierPart c || c == '.') (by decide) c (parts c member)
  rw [writeOpening, Scan.run_append, new, Scan.run_append, type]
  rfl

theorem lacksTopComma_writeArray {names elements : List Text}
    (identifiers : ∀ name ∈ names, isIdentifier name = true)
    (each : ∀ element ∈ elements, IsElement element) :
    lacksTopComma .start (writeArray (Text.join ['.'] names) elements) = true := by
  have opening : lacksTopComma .start (writeOpening (Text.join ['.'] names)) = true := by
    rw [lacksTopComma_iff]
    intro front back shape
    have member : ',' ∈ writeOpening (Text.join ['.'] names) := by simp [shape]
    have inside : ',' ∈ Text.join ['.'] names := by simpa [writeOpening] using member
    exact absurd (isTypePart_of_mem_join identifiers ',' inside) (by decide)
  have inner := (staysInside_writeElements each).lacksTopComma_inBrace
  rw [writeArray, lacksTopComma_append, opening, run_writeOpening identifiers,
    lacksTopComma_append, inner]
  rfl

theorem isArrayOpening_writeOpening {names : List Text} (named : names ≠ [])
    (identifiers : ∀ name ∈ names, isIdentifier name = true) :
    IsArrayOpening (writeOpening (Text.join ['.'] names)) := by
  refine ⟨[' '], Text.join ['.'] names, [], [], [' '], rfl, by simp, ?_,
    List.all_eq_true.mp (by decide)⟩
  exact ⟨names, named, fun name member => isName_of_isIdentifier (identifiers name member), rfl⟩

theorem shape_writeArray {names elements : List Text} (named : names ≠ [])
    (identifiers : ∀ name ∈ names, isIdentifier name = true)
    (each : ∀ element ∈ elements, IsElement element) :
    Shape.ofText (writeArray (Text.join ['.'] names) elements) =
      .arrayLiteral (expressions (writeElements elements)) := by
  have unquoted : isStringLiteral (writeArray (Text.join ['.'] names) elements) = false := by
    simp [isStringLiteral, writeArray, writeOpening]
  have found := findArrayOpening?_append (isArrayOpening_writeOpening named identifiers)
    (writeElements elements ++ ['}'])
  rw [Shape.ofText_eq, unquoted, writeArray, found]
  simp [initializerBody_of_staysInside (staysInside_writeElements each)]

/-- The elements between the braces are read back as arguments. -/
theorem texts_writeElements {elements : List Text}
    (each : ∀ element ∈ elements, IsElement element) :
    (expressions (writeElements elements)).map (·.text) = elements := by
  rw [expressions_text]
  rcases List.eq_nil_or_concat elements with rfl | ⟨front, tail, rfl⟩
  · decide
  · rw [List.concat_eq_append] at each ⊢
    obtain ⟨others, single⟩ := List.forall_mem_append.mp each
    have last := single tail List.mem_cons_self
    have padded : writeElements (front ++ [tail]) =
        Text.join [','] (front.map (' ' :: ·) ++ [' ' :: tail ++ [' ']]) := by
      rw [writeElements, List.map_append, join_append_flatMap _ _ (by simp),
        join_append_flatMap _ _ (by simp)]
      simp [Text.join]
    have keeps : ∀ text ∈ front.map (' ' :: ·), KeepsTop text := by
      intro text member
      obtain ⟨element, inside, rfl⟩ := List.mem_map.mp member
      exact (others element inside).toKeepsTop.blank_cons
    have uncut : lacksTopComma .start (' ' :: tail ++ [' ']) = true := by
      rw [lacksTopComma_append, last.toKeepsTop.blank_cons.lacks_top_comma]
      rfl
    have trims : trim (' ' :: tail ++ [' ']) = tail := by
      rw [trim_append_blanks _ (List.all_eq_true.mp (by decide)), trim_cons_of_blank (by decide),
        last.trimmed]
    have filled : trim (' ' :: tail ++ [' ']) ≠ [] := by
      rw [trims]
      exact last.filled
    rw [padded, texts_arguments_join keeps uncut filled, List.map_append, List.map_singleton, trims,
      map_trim_blank_cons fun element inside => (others element inside).trimmed]

/-- The initializer is a single argument. -/
theorem expressions_writeArray {names elements : List Text}
    (identifiers : ∀ name ∈ names, isIdentifier name = true)
    (each : ∀ element ∈ elements, IsElement element) :
    ∃ argument, expressions (writeArray (Text.join ['.'] names) elements) = [argument] ∧
      argument.text = writeArray (Text.join ['.'] names) elements := by
  have trimmed : IsTrimmed (writeArray (Text.join ['.'] names) elements) := by
    have ends := @isTrimmed_of_ends 'n' '}' (by decide) (by decide)
      (['e', 'w', ' '] ++ (Text.join ['.'] names ++ ['[', ']', ' ', '{']) ++ writeElements elements)
    simpa [writeArray, writeOpening] using ends
  have filled : trim (writeArray (Text.join ['.'] names) elements) ≠ [] := by
    rw [trimmed]
    simp [writeArray]
  have texts := @texts_arguments_join [] _ (by simp) (lacksTopComma_writeArray identifiers each)
    filled
  rw [List.nil_append, Text.join, List.map_singleton, trimmed, ← expressions_text] at texts
  exact List.map_eq_singleton_iff.mp texts

/-- Array initializers are read back element by element, and supply their elements, but what is
expected if the only element is a call of `join`. -/
theorem arrays_read_back (names elements : List Text) (named : names ≠ [])
    (identifiers : ∀ name ∈ names, isIdentifier name = true)
    (each : ∀ element ∈ elements, IsElement element) :
    ∃ argument parts,
      expressions (writeArray (Text.join ['.'] names) elements) = [argument] ∧
      argument.text = writeArray (Text.join ['.'] names) elements ∧
      argument.shape = .arrayLiteral parts ∧ parts.map (·.text) = elements ∧
      ∀ expected, supplied expected (expressions (writeArray (Text.join ['.'] names) elements)) =
        if isLoneJoin elements then expected else elements.length := by
  obtain ⟨argument, single, text⟩ := expressions_writeArray identifiers each
  have classified : argument.IsClassified :=
    classified_expressions argument (by rw [single]; exact List.mem_cons_self)
  have shape : argument.shape = .arrayLiteral (expressions (writeElements elements)) := by
    rw [classified.shaped, text, shape_writeArray named identifiers each]
  have texts := texts_writeElements each
  have counted : countFilled (expressions (writeElements elements)) = elements.length := by
    have lengths := congrArg List.length texts
    rw [List.length_map] at lengths
    refine (countFilled_eq_length classified_expressions ?_).trans lengths
    intro part member
    have inside : part.text ∈ elements := by
      rw [← texts]
      exact List.mem_map.mpr ⟨part, member, rfl⟩
    exact (each part.text inside).filled
  refine ⟨argument, _, single, text, shape, texts, ?_⟩
  intro expected
  rw [single, supplied_arrayLiteral classified shape, texts, counted]

/-- A brace in a literal, an array in an array, an escaped quote between brackets; and a lone call
of `join`. -/
theorem arrays_read_back_nested :
    (∃ argument parts,
      expressions "new a.B[] \x7b \"\x7d,\", new T[] \x7b x, y \x7d, f[g('\\'', z)] \x7d".toList =
        [argument] ∧
      argument.shape = .arrayLiteral parts ∧
      parts.map (·.text) =
        ["\"\x7d,\"".toList, "new T[] \x7b x, y \x7d".toList, "f[g('\\'', z)]".toList] ∧
      ∀ expected, supplied expected [argument] = 3) ∧
      ∀ expected, supplied expected (expressions "new T[] \x7b ids.join(sep) \x7d".toList) =
        expected := by
  have several : ∀ element ∈ ["\"\x7d,\"".toList, "new T[] \x7b x, y \x7d".toList,
      "f[g('\\'', z)]".toList], IsElement element := by
    simp only [List.forall_mem_cons]
    exact ⟨⟨⟨by decide, by decide⟩, by decide, by decide, by decide⟩,
      ⟨⟨by decide, by decide⟩, by decide, by decide, by decide⟩,
      ⟨⟨by decide, by decide⟩, by decide, by decide, by decide⟩, by simp⟩
  have lone : ∀ element ∈ ["ids.join(sep)".toList], IsElement element := by
    simp only [List.forall_mem_cons]
    exact ⟨⟨⟨by decide, by decide⟩, by decide, by decide, by decide⟩, by simp⟩
  have joins : isLoneJoin ["ids.join(sep)".toList] = true := by
    rw [isLoneJoin, Shape.ofText_eq]
    decide
  obtain ⟨argument, parts, single, _, shape, texts, three⟩ :=
    arrays_read_back [['a'], ['B']] _ (by decide) (by decide) several
  obtain ⟨_, _, _, _, _, _, expects⟩ := arrays_read_back [['T']] _ (by decide) (by decide) lone
  rw [single] at three
  rw [joins] at expects
  exact ⟨⟨argument, parts, single, shape, texts, three⟩, expects⟩

end MessageKeys.Call
