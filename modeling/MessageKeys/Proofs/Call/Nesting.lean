import MessageKeys.Proofs.Call.ArrayLiteral
import MessageKeys.Proofs.Call.Spans

/-!
Arguments within arguments.

An array literal is classified by classifying its elements, which are cut from the text between its
braces. This text begins behind the first opening, ends at the brace that matches the one of the
opening, or with the text (`initializerBody_cases`), and is shorter than the literal, so that the
classification ends at every text (`wellFounded_isElementOf`). An expression that stands `depth`
literals deep has lost at least as many characters (`nested_inside_parent`).
-/
namespace MessageKeys.Call

open Text

/-- Outside of literals, as many braces are closed as are opened. -/
def BalancesBraces (text : Text) : Prop :=
  ∃ bare, Unquoted text bare ∧ excess '{' '}' bare = 0

/-- The elements of an array literal, whose text is divided into what stands in front of its
opening, the opening, what stands between its braces, and what stands behind. -/
structure HoldsElements (front opening body behind : Text) (elements : List Expression) :
    Prop where
  isOpening : IsArrayOpening opening
  /-- No other opening begins before. -/
  isFirst : ∀ front' opening', front' ++ opening' <+: front ++ opening ++ body ++ behind →
    IsArrayOpening opening' → front <+: front'
  shorter : size body < size (front ++ opening ++ body ++ behind)
  /-- What stands behind is nothing, or begins with the brace that matches the one of the opening.
  Literals are told apart from the opening on. -/
  ends : behind = [] ∨ (∃ rest, behind = '}' :: rest) ∧ BalancesBraces body
  /-- No brace before is the matching one. -/
  goesOn : ∀ inner, inner ++ ['}'] <+: body → ¬BalancesBraces inner
  /-- If the opening stands outside of the literals of the text, so does what stands behind. -/
  outside : behind ≠ [] → ∀ bare, Unquoted (front ++ opening) bare →
    ∃ bare', Unquoted (front ++ opening ++ body) bare'
  elements_eq : elements = expressions body
  sliced : ∀ element ∈ elements, slice? body element.offset element.stop = some element.text
  trimmed : ∀ element ∈ elements, IsTrimmed element.text

/-- Expressions, and at greater depths the elements of their array literals. -/
inductive NestedAt (expressions : List Expression) : Nat → Expression → Prop where
  | top {argument : Expression} : argument ∈ expressions → NestedAt expressions 0 argument
  | element {depth : Nat} {outer element : Expression} {elements : List Expression} :
    NestedAt expressions depth outer → outer.shape = .arrayLiteral elements →
      element ∈ elements → NestedAt expressions (depth + 1) element

/-- To classify `outer` means to classify `inner`, the text of one of its elements. -/
def IsElementOf (inner outer : Text) : Prop :=
  isStringLiteral outer = false ∧ ∃ rest, findArrayOpening? outer = some rest ∧
    ∃ piece ∈ arguments (initializerBody 0 .start rest), piece.text = inner

/-! ## Balanced braces -/

theorem Unquoted.append {a b bareA bareB : Text} (first : Unquoted a bareA)
    (second : Unquoted b bareB) : Unquoted (a ++ b) (bareA ++ bareB) := by
  induction first with
  | nil => exact second
  | char bare _ ih => exact .char bare ih
  | literal opens closed _ ih =>
    rw [List.append_assoc, List.cons_append]
    exact .literal opens closed ih

/-- Braces balance where a reader of the text has counted none and is outside of literals. -/
theorem balancesBraces_iff (text : Text) :
    BalancesBraces text ↔
      (Scan.start.run text).quoting.isOpen = false ∧ (Scan.start.run text).braces = 0 := by
  constructor
  · rintro ⟨bare, reads, balanced⟩
    obtain ⟨after, counted⟩ := reads.run false 0 0 0
    rw [Scan.start, Quoting.start, counted, balanced]
    exact ⟨rfl, rfl⟩
  · rintro ⟨closed, balanced⟩
    obtain ⟨bare, reads⟩ := exists_unquoted closed
    obtain ⟨after, counted⟩ := reads.run false 0 0 0
    rw [Scan.start, Quoting.start, counted] at balanced
    exact ⟨bare, reads, by simpa using balanced⟩

/-! ## The text between the braces -/

/-- What stands between the braces never closes more braces than it opens, and it ends where the
text does or where a brace outside of literals would close one more. -/
theorem initializerBody_cases {scan : Scan} (nonneg : 0 ≤ scan.braces) (text : Text) :
    ∃ body behind, initializerBody scan.braces.toNat scan.quoting text = body ∧
      text = body ++ behind ∧ (∀ front, front <+: body → 0 ≤ (scan.run front).braces) ∧
      (behind = [] ∨ (∃ rest, behind = '}' :: rest) ∧
        (scan.run body).quoting.isOpen = false ∧ (scan.run body).braces = 0) := by
  induction text generalizing scan with
  | nil =>
    refine ⟨[], [], rfl, rfl, ?_, .inl rfl⟩
    intro front begins
    rw [List.prefix_nil.mp begins]
    exact nonneg
  | cons c rest ih =>
    rcases initializerBody_cons nonneg c rest with ⟨rfl, outside, none, stops⟩ | ⟨next, goesOn⟩
    · refine ⟨[], '}' :: rest, stops, rfl, ?_, .inr ⟨⟨rest, rfl⟩, outside, none⟩⟩
      intro front begins
      rw [List.prefix_nil.mp begins]
      exact nonneg
    · obtain ⟨body, behind, read, parts, below, ends⟩ := ih next
      refine ⟨c :: body, behind, by rw [goesOn, read], by rw [parts]; rfl, ?_, ends⟩
      intro front begins
      rcases List.prefix_cons_iff.mp begins with rfl | ⟨inner, rfl, further⟩
      · exact nonneg
      · exact below inner further

/-- A brace behind balanced ones closes more than was opened. -/
theorem not_balancesBraces {body inner : Text}
    (below : ∀ front, front <+: body → 0 ≤ (Scan.start.run front).braces)
    (begins : inner ++ ['}'] <+: body) : ¬BalancesBraces inner := by
  intro balanced
  obtain ⟨outside, none⟩ := (balancesBraces_iff inner).mp balanced
  have bound := below _ begins
  rw [Scan.run_append, Scan.run_cons, Scan.run_nil, Scan.braces_step, outside, none] at bound
  exact absurd bound (by decide)

/-! ## The first opening -/

theorem findArrayOpening?_eq_some {text rest : Text} (found : findArrayOpening? text = some rest) :
    ∃ front opening, text = front ++ opening ++ rest ∧ IsArrayOpening opening ∧
      ∀ front' opening', front' ++ opening' <+: text → IsArrayOpening opening' →
        front <+: front' := by
  induction text with
  | nil => cases found
  | cons c more ih =>
    rw [findArrayOpening?, Option.or_eq_some_iff] at found
    rcases found with here | ⟨absent, later⟩
    · obtain ⟨opening, isOpening, shape⟩ := afterArrayOpening?_eq_some_iff.mp here
      exact ⟨[], opening, shape, isOpening, fun _ _ _ _ => List.nil_prefix⟩
    · obtain ⟨front, opening, rfl, isOpening, isFirst⟩ := ih later
      refine ⟨c :: front, opening, rfl, isOpening, ?_⟩
      intro front' opening' begins isOpening'
      cases front' with
      | nil =>
        obtain ⟨behind, shape⟩ := begins
        have read := afterArrayOpening?_eq_some_iff.mpr ⟨opening', isOpening', shape.symm⟩
        rw [absent] at read
        cases read
      | cons d front' =>
        obtain ⟨rfl, further⟩ := List.cons_prefix_cons.mp begins
        exact List.cons_prefix_cons.mpr ⟨rfl, isFirst front' opening' further isOpening'⟩

/-! ## The classification -/

/-- The elements of an array literal are the arguments of the text behind its first opening. -/
theorem exists_of_arrayLiteral {text : Text} {elements : List Expression}
    (shape : Shape.ofText text = .arrayLiteral elements) :
    ∃ rest, findArrayOpening? text = some rest ∧
      elements = expressions (initializerBody 0 .start rest) := by
  rw [Shape.ofText_eq] at shape
  split at shape
  · cases shape
  · split at shape
    · next rest found => exact ⟨rest, found, (Shape.arrayLiteral.inj shape).symm⟩
    · split at shape
      · cases shape
      · split at shape <;> cases shape

theorem holdsElements_of_arrayLiteral {text : Text} {elements : List Expression}
    (shape : Shape.ofText text = .arrayLiteral elements) :
    ∃ front opening body behind, text = front ++ opening ++ body ++ behind ∧
      HoldsElements front opening body behind elements := by
  obtain ⟨rest, found, elements_eq⟩ := exists_of_arrayLiteral shape
  obtain ⟨front, opening, whole, isOpening, isFirst⟩ := findArrayOpening?_eq_some found
  obtain ⟨body, behind, read, rfl, below, ends⟩ :=
    @initializerBody_cases .start (Int.le_refl 0) rest
  rw [show initializerBody 0 .start (body ++ behind) = body from read] at elements_eq
  rw [← List.append_assoc] at whole
  refine ⟨front, opening, body, behind, whole, ?_⟩
  subst elements_eq
  constructor
  · exact isOpening
  · rwa [← whole]
  · have some : 0 < size opening :=
      Nat.lt_of_lt_of_le (List.length_pos_of_mem isOpening.brace_mem) (length_le_size opening)
    simp only [size_append]
    omega
  · exact ends.imp_right fun ⟨brace, closed⟩ => ⟨brace, (balancesBraces_iff body).mpr closed⟩
  · intro inner begins
    exact not_balancesBraces below begins
  · intro filled bare reads
    obtain ⟨_, closed, _⟩ := ends.resolve_left filled
    obtain ⟨bare', inner⟩ := exists_unquoted closed
    exact ⟨bare ++ bare', reads.append inner⟩
  · rfl
  · intro element member
    exact (stands_of_mem_expressions member).slice?
  · intro element member
    exact (classified_expressions element member).trimmed

/-- An element is shorter than the literal it stands in. -/
theorem IsElementOf.length_lt {inner outer : Text} (isElement : IsElementOf inner outer) :
    inner.length < outer.length := by
  obtain ⟨_, rest, found, piece, member, rfl⟩ := isElement
  exact Nat.lt_of_le_of_lt (length_le_of_mem_arguments member)
    (Nat.lt_of_le_of_lt (length_initializerBody_le 0 .start rest)
      (length_findArrayOpening?_lt found))

theorem wellFounded_isElementOf : WellFounded IsElementOf :=
  Subrelation.wf IsElementOf.length_lt (measure List.length).wf

theorem isElementOf_of_mem {text : Text} {elements : List Expression} {element : Expression}
    (shape : Shape.ofText text = .arrayLiteral elements) (member : element ∈ elements) :
    IsElementOf element.text text := by
  have unquoted : isStringLiteral text = false := by
    cases literal : isStringLiteral text with
    | false => rfl
    | true =>
      rw [Shape.ofText_eq, literal] at shape
      cases shape
  obtain ⟨rest, found, rfl⟩ := exists_of_arrayLiteral shape
  obtain ⟨piece, inside, rfl⟩ := List.mem_map.mp member
  exact ⟨unquoted, rest, found, piece, inside, rfl⟩

/-- At every depth an expression has the shape of its text, which loses a character at least for
each literal that it stands in. -/
theorem NestedAt.classified {list : Text} {depth : Nat} {node : Expression}
    (nested : NestedAt (expressions list) depth node) :
    node.IsClassified ∧ depth + node.text.length ≤ list.length := by
  induction nested with
  | top member =>
    obtain ⟨piece, inside, rfl⟩ := List.mem_map.mp member
    refine ⟨classified_expressions _ member, ?_⟩
    rw [Nat.zero_add]
    exact length_le_of_mem_arguments inside
  | element _ shape member ih =>
    have shaped := ih.1.shaped.symm.trans shape
    have shorter := (isElementOf_of_mem shaped member).length_lt
    exact ⟨classified_elements shaped _ member, by omega⟩

/-- The classification of arguments ends, since it goes on with shorter texts only, and at every
depth the elements of an array literal are cut from the text between its braces. -/
theorem nested_inside_parent (list : Text) :
    WellFounded IsElementOf ∧
      ∀ depth node, NestedAt (expressions list) depth node →
        depth + node.text.length ≤ list.length ∧
        ∀ elements, node.shape = .arrayLiteral elements →
          (∀ element ∈ elements, IsElementOf element.text node.text) ∧
          ∃ front opening body behind, node.text = front ++ opening ++ body ++ behind ∧
            HoldsElements front opening body behind elements := by
  refine ⟨wellFounded_isElementOf, ?_⟩
  intro depth node nested
  obtain ⟨classified, bound⟩ := nested.classified
  refine ⟨bound, ?_⟩
  intro elements shape
  have shaped := classified.shaped.symm.trans shape
  exact ⟨fun element member => isElementOf_of_mem shaped member,
    holdsElements_of_arrayLiteral shaped⟩

/-- A literal that is never closed, and one in it with a brace in quotes. -/
def unclosedArray : Text := "new T[] \x7b x, new U[] \x7b '\x7d', y \x7d ".toList

theorem nested_inside_parent_unclosed :
    ∃ outer inner outerElements innerElements,
      NestedAt (expressions unclosedArray) 0 outer ∧ outer.shape = .arrayLiteral outerElements ∧
      NestedAt (expressions unclosedArray) 1 inner ∧ inner.shape = .arrayLiteral innerElements ∧
      innerElements.map (·.text) = ["'\x7d'".toList, ['y']] ∧
      1 + inner.text.length ≤ unclosedArray.length ∧
      (∃ front opening body behind, outer.text = front ++ opening ++ body ++ behind ∧
        HoldsElements front opening body behind outerElements) ∧
      ∃ front opening body behind, inner.text = front ++ opening ++ body ++ behind ∧
        HoldsElements front opening body behind innerElements := by
  let outer : Expression := .ofPiece ⟨"new T[] \x7b x, new U[] \x7b '\x7d', y \x7d".toList, 0⟩
  let inner : Expression := .ofPiece ⟨"new U[] \x7b '\x7d', y \x7d".toList, 4⟩
  have outerShape : outer.shape =
      .arrayLiteral (expressions " x, new U[] \x7b '\x7d', y \x7d".toList) :=
    (Shape.ofText_eq _).trans rfl
  have innerShape : inner.shape = .arrayLiteral (expressions " '\x7d', y ".toList) :=
    (Shape.ofText_eq _).trans rfl
  have top : NestedAt (expressions unclosedArray) 0 outer :=
    .top (List.mem_map_of_mem (by decide))
  have below : NestedAt (expressions unclosedArray) 1 inner :=
    .element top outerShape (List.mem_map_of_mem (by decide))
  have texts : (expressions " '\x7d', y ".toList).map (·.text) = ["'\x7d'".toList, ['y']] := by
    rw [expressions_text]
    decide
  obtain ⟨_, nested⟩ := nested_inside_parent unclosedArray
  obtain ⟨_, outerHolds⟩ := (nested 0 outer top).2 _ outerShape
  obtain ⟨bound, innerHolds⟩ := nested 1 inner below
  exact ⟨outer, inner, _, _, top, outerShape, below, innerShape, texts, bound, outerHolds,
    (innerHolds _ innerShape).2⟩

end MessageKeys.Call
