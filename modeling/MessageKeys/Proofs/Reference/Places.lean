import MessageKeys.Proofs.Text.Standing
import MessageKeys.Proofs.Text.Trimming
import MessageKeys.Reference

/-!
Where references stand.

Whatever finds a reference, a method call or an annotation, its key is the part of the source that
stands at its position (`stands_of_mem_references`). Two references with one span therefore have one
key, and leaving out all but one of them loses no key.
-/
namespace MessageKeys

open Text

namespace Regex

theorem offset_foldl_after (place : Place) (passed : Text) :
    (passed.foldl Place.after place).offset = place.offset + size passed := by
  induction passed generalizing place with
  | nil => rfl
  | cons c rest ih =>
    rw [List.foldl_cons, ih, size_cons]
    simp only [Place.after]
    omega

theorem stands_capture (place : Place) {front : Text} (here : size front = place.offset)
    (text : Text) (start stop : Nat) :
    Stands (place.capture text start stop).text (place.capture text start stop).start
      (front ++ text) := by
  obtain ⟨skipped, defined⟩ : ∃ skipped, skipped = start - place.index := ⟨_, rfl⟩
  refine ⟨front ++ text.take skipped, (text.drop skipped).drop (stop - start), ?_, ?_⟩
  · simp only [Place.capture, ← defined, List.append_assoc, List.take_append_drop]
  · simp only [Place.capture, ← defined, size_append, here]

/-- What the group keeps stands in the text. -/
theorem stands_of_mem_findFrom {program : Program} {fuel : Nat} {place : Place} {ended : Bool}
    {front text : Text} (here : size front = place.offset) {kept : Capture}
    (member : some kept ∈ findFrom program fuel place ended text) :
    Stands kept.text kept.start (front ++ text) := by
  induction fuel generalizing place ended front text with
  | zero => simp [findFrom] at member
  | succ fuel ih =>
    unfold findFrom at member
    split at member
    · simp at member
    next found _ =>
      split at member
      · split at member
        · simp at member
        next c rest _ =>
          have further : size (front ++ [c]) = (place.after c).offset := by
            rw [size_append, here, Place.after, size_cons, size_nil, Nat.add_zero]
          have later := ih further member
          rwa [List.append_assoc, List.singleton_append] at later
      · rcases List.mem_cons.mp member with first | later
        · cases captured : found.kept? with
          | none => simp [captured] at first
          | some group =>
            rw [captured, Option.map_some, Option.some.injEq] at first
            rw [first]
            exact stands_capture place here text _ _
        · have further := offset_foldl_after place (text.take (found.stop - place.index))
          rw [← here, ← size_append] at further
          have rest := ih further.symm later
          rwa [List.append_assoc, List.take_append_drop] at rest

theorem stands_of_mem_findAll {regex : Regex} {text : Text} {kept : Capture}
    (member : some kept ∈ regex.findAll text) : Stands kept.text kept.start text := by
  have start : size [] = Place.first.offset := rfl
  exact stands_of_mem_findFrom start member

end Regex

/-- A text between two quotes that holds none itself. -/
structure InLiteral (before text behind : Text) : Prop where
  opened : ∃ front quote, before = front ++ [quote] ∧ Call.Quoting.isQuote quote = true
  plain : ∀ c ∈ text, Call.Quoting.isQuote c = false
  closed : ∃ quote rest, behind = quote :: rest ∧ Call.Quoting.isQuote quote = true

theorem InLiteral.append_front {before text behind : Text} (literal : InLiteral before text behind)
    (more : Text) : InLiteral (more ++ before) text behind := by
  obtain ⟨front, quote, rfl, quoted⟩ := literal.opened
  exact ⟨⟨more ++ front, quote, by rw [List.append_assoc], quoted⟩, literal.plain, literal.closed⟩

theorem readKeyCall_eq_some {name text taken before key : Text}
    (read : readKeyCall name text = some (taken, before, key)) :
    ∃ behind, text = before ++ key ++ behind ∧ InLiteral before key behind := by
  simp only [readKeyCall, Option.bind_eq_bind, Option.bind_eq_some_iff] at read
  obtain ⟨rest, after, read⟩ := read
  rw [after?_eq_some_iff] at after
  have blanks := blankLead_append_trimStart rest
  generalize blankLead rest = lead at read blanks
  split at read
  · cases read
  next quote inner start =>
    split at read
    next closing behind shut =>
      split at read
      next quoted =>
        cases read
        refine ⟨closing :: behind, ?_, ⟨_, quote, rfl, quoted.1⟩, ?_, closing, behind, rfl, ?_⟩
        · have literal := List.takeWhile_append_dropWhile (p := fun c => !Call.Quoting.isQuote c)
            (l := inner)
          rw [shut] at literal
          rw [after, ← blanks, start]
          simp [literal]
        · intro c member
          simpa using List.all_eq_true.mp List.all_takeWhile c member
        · have stopped := List.head?_dropWhile_not (fun c => !Call.Quoting.isQuote c) inner
          rw [shut] at stopped
          simpa using stopped
      · cases read
    · cases read

theorem readReference_eq_some {name text taken before key : Text}
    (read : readReference name text = some (taken, before, key)) :
    ∃ behind, text = before ++ key ++ behind ∧ InLiteral before key behind := by
  unfold readReference at read
  generalize text.takeWhile Call.isNamePart = object at read
  dsimp only at read
  split at read
  next found onObject =>
    cases read
    simp only [Option.bind_eq_bind, Option.bind_eq_some_iff] at onObject
    obtain ⟨rest, after, ⟨inner, front, literal⟩, call, joined⟩ := onObject
    rw [after?_eq_some_iff] at after
    obtain ⟨behind, whole, quoted⟩ := readKeyCall_eq_some call
    split at joined
    · cases joined
    · cases joined
      exact ⟨behind, by rw [after, whole]; simp, quoted.append_front _⟩
  · exact readKeyCall_eq_some read

namespace Reference

theorem stands_of_ofRaw? {start : Nat} {raw source : Text} {reference : Reference}
    (here : Stands raw start source) (made : ofRaw? start raw = some reference) :
    Stands reference.key reference.start source := by
  unfold ofRaw? at made
  split at made
  · cases made
  · cases made
    exact (stands_trim raw).trans here

end Reference

/-- A method refers to the key that its literal holds. -/
theorem literal_of_mem_methodReferences {name : Call.MethodName} {source : Text}
    {reference : Reference} (member : reference ∈ methodReferences name source) :
    ∃ before raw behind, source = before ++ raw ++ behind ∧ InLiteral before raw behind ∧
      Reference.ofRaw? (size before) raw = some reference := by
  obtain ⟨found, inside, made⟩ := List.mem_filterMap.mp member
  obtain ⟨front, rest, whole, place, read⟩ := mem_occurrences inside
  obtain ⟨start, taken, before, raw⟩ := found
  obtain ⟨behind, shape, quoted⟩ := readReference_eq_some read
  refine ⟨front ++ before, raw, behind, ?_, quoted.append_front front, ?_⟩
  · rw [whole, shape]
    simp
  · rw [size_append, place]
    exact made

theorem stands_of_mem_methodReferences {name : Call.MethodName} {source : Text}
    {reference : Reference} (member : reference ∈ methodReferences name source) :
    Stands reference.key reference.start source := by
  obtain ⟨before, raw, behind, whole, _, made⟩ := literal_of_mem_methodReferences member
  exact Reference.stands_of_ofRaw? ⟨before, behind, whole, rfl⟩ made

theorem stands_of_mem_annotationReferences {pattern : Regex} {source : Text}
    {reference : Reference} (member : reference ∈ annotationReferences pattern source) :
    Stands reference.key reference.start source := by
  obtain ⟨kept?, inside, made⟩ := List.mem_filterMap.mp member
  obtain ⟨kept, rfl, made⟩ := Option.bind_eq_some_iff.mp made
  exact Reference.stands_of_ofRaw? (Regex.stands_of_mem_findAll inside) made

/-- The key of a reference is what stands at its position. -/
theorem stands_of_mem_references {m : Matcher} {source : Text} {reference : Reference}
    (member : reference ∈ m.references source) : Stands reference.key reference.start source := by
  rcases List.mem_append.mp member with calls | annotations
  · obtain ⟨name, _, inside⟩ := List.mem_flatMap.mp calls
    exact stands_of_mem_methodReferences inside
  · obtain ⟨pattern, _, inside⟩ := List.mem_flatMap.mp annotations
    exact stands_of_mem_annotationReferences inside

/-- References with one span have one key. -/
theorem key_eq_of_span {m : Matcher} {source : Text} {reference other : Reference}
    (here : reference ∈ m.references source) (there : other ∈ m.references source)
    (same : reference.span = other.span) : reference.key = other.key := by
  rw [Reference.span, Reference.span, Span.mk.injEq] at same
  have place := stands_of_mem_references there
  rw [← same.1] at place
  exact (stands_of_mem_references here).unique place (by omega)

end MessageKeys
