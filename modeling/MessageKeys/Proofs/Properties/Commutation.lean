import Mathlib.Data.List.TakeWhile
import MessageKeys.Proofs.Properties.Batch
import MessageKeys.Proofs.Properties.LineEnds
import MessageKeys.Proofs.Properties.Placement

/-!
Two additions to one file in either order.

Among the lines two new definitions whose keys differ beyond letter case come to the same places in
either order (`withDefinition_comm`), whether the lines are in order or not. The next insertion sees
the lines that the first one has left, with one exception: a last line that is a carriage return
without a line end is lost by an insertion in front of it (`existingSlots_insert?`). So the entries
are the same up to the line numbers, and these differ exactly if that line is lost before the other
key is added behind it (`additions_commute_iff`).
-/
namespace MessageKeys.Properties

/-! ## Places among the lines -/

theorem withDefinition_cons (slot : Option (Text × Text)) (slots : List (Option (Text × Text)))
    (key value : Text) :
    withDefinition (slot :: slots) key value =
      if slot.all (precedes key) then slot :: withDefinition slots key value
      else some (key, value) :: slot :: slots := by
  unfold withDefinition
  rw [List.takeWhile_cons, List.dropWhile_cons]
  split <;> rfl

/-- New definitions come to the same places in either order. -/
theorem withDefinition_comm {key later : Text} (after : isAfter later key = true)
    (value other : Text) (slots : List (Option (Text × Text))) :
    withDefinition (withDefinition slots key value) later other =
      withDefinition (withDefinition slots later other) key value := by
  have first : (some (key, value)).all (precedes later) = true := by
    simp [precedes, isAfter_asymm after]
  have second : (some (later, other)).all (precedes key) = false := by
    simp [precedes, after]
  induction slots with
  | nil =>
    have alone : ∀ name text : Text, withDefinition [] name text = [some (name, text)] :=
      fun _ _ => rfl
    rw [alone, alone, withDefinition_cons, withDefinition_cons, if_pos first, alone,
      if_neg (by simp [second])]
  | cons slot more ih =>
    by_cases before : slot.all (precedes key) = true
    · have alsoBefore : slot.all (precedes later) = true := by
        cases slot with
        | none => rfl
        | some definition =>
          simp only [Option.all_some, precedes, Bool.not_eq_true'] at before ⊢
          by_contra behind
          rw [Bool.not_eq_false] at behind
          exact absurd (isAfter_trans after behind) (by simp [before])
      rw [withDefinition_cons, if_pos before, withDefinition_cons, if_pos alsoBefore, ih,
        withDefinition_cons, if_pos alsoBefore, withDefinition_cons, if_pos before]
    · rw [withDefinition_cons slot more key, if_neg before, withDefinition_cons _ _ later,
        if_pos first, withDefinition_cons slot more later]
      by_cases alsoBefore : slot.all (precedes later) = true
      · rw [if_pos alsoBefore, withDefinition_cons, if_neg before]
      · rw [if_neg alsoBefore, withDefinition_cons, if_neg (by simp [second])]

/-- Whether a content defines a key behind the place of a new one. -/
def HasLater (content key : Text) : Prop :=
  ∃ definition ∈ definitions content, isAfter definition.1 key = true

/-- A blank line at the end stays there if the new definition comes in front of another one. -/
theorem withDefinition_concat {slots : List (Option (Text × Text))} {key : Text}
    (later : ∃ definition ∈ slots.reduceOption, isAfter definition.1 key = true) (value : Text) :
    withDefinition (slots ++ [none]) key value = withDefinition slots key value ++ [none] := by
  induction slots with
  | nil => simp at later
  | cons slot more ih =>
    rw [List.cons_append, withDefinition_cons, withDefinition_cons]
    by_cases before : slot.all (precedes key) = true
    · obtain ⟨definition, member, after⟩ := later
      have inside : definition ∈ more.reduceOption := by
        cases slot with
        | none => exact member
        | some first =>
          rw [List.reduceOption_cons_of_some, List.mem_cons] at member
          rcases member with rfl | behind
          · simp [precedes, after] at before
          · exact behind
      rw [if_pos before, if_pos before, ih ⟨definition, inside, after⟩, List.cons_append]
    · rw [if_neg before, if_neg before, List.cons_append, List.cons_append]

/-- Without a later key the new definition comes to the end. -/
theorem withDefinition_of_not_later {slots : List (Option (Text × Text))} {key : Text}
    (last : ¬∃ definition ∈ slots.reduceOption, isAfter definition.1 key = true) (value : Text) :
    withDefinition slots key value = slots ++ [some (key, value)] := by
  induction slots with
  | nil => rfl
  | cons slot more ih =>
    have before : slot.all (precedes key) = true := by
      cases slot with
      | none => rfl
      | some first =>
        simp only [Option.all_some, precedes, Bool.not_eq_true']
        by_contra after
        rw [Bool.not_eq_false] at after
        exact last ⟨first, by simp, after⟩
    have rest : ¬∃ definition ∈ more.reduceOption, isAfter definition.1 key = true := by
      rintro ⟨definition, member, after⟩
      refine last ⟨definition, ?_, after⟩
      cases slot with
      | none => exact member
      | some first => simp [member]
    rw [withDefinition_cons, if_pos before, ih rest, List.cons_append]

/-! ## What the next insertion sees -/

theorem hasLater_iff {content key : Text} :
    HasLater content key ↔ (existingLines content).dropWhile (staysBefore key) ≠ [] := by
  rw [ne_eq, List.dropWhile_eq_nil_iff, HasLater, definitions_eq_existing, existingSlots,
    reduceOption_eq, List.filterMap_map]
  constructor
  · rintro ⟨definition, member, after⟩ stays
    obtain ⟨line, inside, defined⟩ := List.mem_filterMap.mp member
    have before := stays line inside
    rw [staysBefore_eq] at before
    simp only [Function.comp_apply, id] at defined
    simp [defined, precedes, after] at before
  · intro stays
    push Not at stays
    obtain ⟨line, inside, behind⟩ := stays
    rw [staysBefore_eq] at behind
    cases defined : definition? line with
    | none => simp [defined] at behind
    | some definition =>
      refine ⟨definition, List.mem_filterMap.mpr ⟨line, inside, defined⟩, ?_⟩
      simpa [defined, precedes] using behind

theorem existingSlots_of_filled {content : Text} (filled : content ≠ []) :
    existingSlots content = definedLines (body content) := by
  rw [existingSlots, existingLines, if_neg filled]
  rfl

/-- The end of a content with a new line in front of others is that of the rebuilt content. -/
theorem getLast?_withLine {content key : Text} (unended : content.getLast? ≠ some '\n')
    (filled : content ≠ []) (later : HasLater content key) (value : Text) :
    (Text.join (lineEnd content) (withLine (existingLines content) key value)).getLast? =
      (rebuilt (lineEnd content) content).getLast? := by
  have lined : existingLines content = lines (body content) := if_neg filled
  have parts := List.takeWhile_append_dropWhile (p := staysBefore key) (l := existingLines content)
  obtain ⟨line, more, after⟩ := List.exists_cons_of_ne_nil (hasLater_iff.mp later)
  have shown : Text.join (lineEnd content) (line :: more) ≠ [] := by
    have behind := List.head?_dropWhile_not (staysBefore key) (existingLines content)
    rw [after] at behind
    have defining : line ≠ [] := by
      rintro rfl
      cases (staysBefore_nil key).symm.trans behind
    cases more with
    | nil => exact defining
    | cons next rest => simp [Text.join, defining]
  have old : rebuilt (lineEnd content) content =
      ((existingLines content).takeWhile (staysBefore key)).flatMap (· ++ lineEnd content) ++
        Text.join (lineEnd content) (line :: more) := by
    rw [rebuilt, if_neg unended, List.append_nil, ← lined,
      ← Text.join_append_flatMap _ _ (by simp), ← after, parts]
  rw [old, withLine, after, Text.join_append_flatMap _ _ (by simp), Text.join,
    List.getLast?_append_of_ne_nil _ shown, List.getLast?_append_of_ne_nil _ (by simp [shown]),
    List.getLast?_append_of_ne_nil _ shown]

/-- Whether an insertion loses the last line: a carriage return without a line end, which stays only
behind a key that comes to the end. -/
def LosesLine (content key : Text) : Prop := ['\n', '\r'] <:+ content ∧ HasLater content key

/-- The lines that the next insertion sees. -/
theorem existingSlots_insert? {content key value changed : Text} (isKey : IsKey key)
    (isTemplate : IsTemplate value) (inserted : insert? content key value = some changed) :
    (¬LosesLine content key ∧
        existingSlots changed = withDefinition (existingSlots content) key value) ∨
      LosesLine content key ∧
        existingSlots changed ++ [none] = withDefinition (existingSlots content) key value := by
  have longer := count_lt_of_insert? inserted
  have filled : changed ≠ [] := by
    rintro rfl
    simp at longer
  rw [insert?_eq] at inserted
  split at inserted
  · cases inserted
  rw [Option.some.injEq, lastEnd] at inserted
  split at inserted
  · next ends =>
    refine .inl ⟨?_, ?_⟩
    · rintro ⟨⟨front, rfl⟩, later⟩
      rcases ends with feed | last
      · simp at feed
      · exact hasLater_iff.mp later last
    · have ended : changed.getLast? = some '\n' := by
        rw [← inserted, List.getLast?_append, getLast?_lineEnd]
        rfl
      have slots := definedLines_ended ended
      rw [← existingSlots_of_filled filled, ← inserted, definedLines_append_lineEnd,
        definedLines_withLine isKey isTemplate, List.append_cancel_right_eq, inserted] at slots
      exact slots.symm
  · next unended =>
    rw [not_or] at unended
    rw [List.append_nil] at inserted
    have later : HasLater content key := hasLater_iff.mpr unended.2
    have nonempty : content ≠ [] := by
      rintro rfl
      exact unended.2 rfl
    have last := getLast?_withLine unended.1 nonempty later value
    have returned := getLast?_rebuilt (getLast?_lineEnd content) unended.1
    rw [← last, inserted] at returned
    have slots := @definedLines_withLine content key value isKey isTemplate
    rw [inserted] at slots
    by_cases ended : changed.getLast? = some '\n'
    · refine .inr ⟨⟨returned.mp ended, later⟩, ?_⟩
      rw [existingSlots_of_filled filled, ← definedLines_ended ended, slots]
    · refine .inl ⟨fun lost => ended (returned.mpr lost.1), ?_⟩
      rw [existingSlots_of_filled filled, body, if_neg ended, slots]

/-! ## Two additions -/

section Twice

variable {content changed : Text} {key value : Text} (isKey : IsKey key)
  (isTemplate : IsTemplate value) (inserted : insert? content key value = some changed)
include isKey isTemplate inserted

theorem parse_insert? (file : Text) :
    parse changed file = numbered file 1 (withDefinition (existingSlots content) key value) := by
  rw [parse_eq, numbered_of_blankEnd file 1 (blankEnd_existingSlots changed)]
  rcases existingSlots_insert? isKey isTemplate inserted with ⟨_, same⟩ | ⟨_, blank⟩
  · rw [same]
  · rw [← blank, numbered_of_blankEnd file 1 (.inr rfl)]

theorem hasLater_insert? {other : Text} :
    HasLater changed other ↔ isAfter key other = true ∨ HasLater content other := by
  simp only [HasLater, mem_definitions_insert? isKey isTemplate inserted, or_and_right,
    exists_or, exists_eq_left]

/-- The entries after a second insertion are those at the places among the old lines, unless the
first insertion has lost a line in front of the second key. -/
theorem parse_twice_iff {other more last : Text} (isOther : IsKey other)
    (isMore : IsTemplate more) (again : insert? changed other more = some last) (file : Text) :
    parse last file =
        numbered file 1
          (withDefinition (withDefinition (existingSlots content) key value) other more) ↔
      ¬(LosesLine content key ∧ ¬HasLater changed other) := by
  rw [parse_insert? isOther isMore again]
  rcases existingSlots_insert? isKey isTemplate inserted with ⟨kept, same⟩ | ⟨lost, blank⟩
  · rw [same]
    exact iff_of_true rfl fun both => kept both.1
  · rw [← blank]
    have seen : HasLater changed other ↔
        ∃ definition ∈ (existingSlots changed).reduceOption, isAfter definition.1 other = true := by
      rw [HasLater, definitions_eq_existing]
    by_cases later : HasLater changed other
    · rw [withDefinition_concat (seen.mp later), numbered_of_blankEnd file 1 (.inr rfl)]
      exact iff_of_true rfl fun both => both.2 later
    · -- The new line is the last one, and stands one line higher than with the lost line.
      have open_end : ¬∃ definition ∈ (existingSlots changed ++ [none]).reduceOption,
          isAfter definition.1 other = true := by
        rw [BlankEnd.reduceOption (.inr rfl), ← seen]
        exact later
      rw [withDefinition_of_not_later (seen.not.mp later), withDefinition_of_not_later open_end,
        numbered_append, numbered_append, numbered_append, List.append_assoc,
        List.append_cancel_left_eq]
      refine iff_of_false ?_ fun kept => kept ⟨lost, later⟩
      intro same
      simp [numbered] at same

end Twice

/-- Whether the order of two additions can be told from the line numbers: the last line is a
carriage return without a line end, and one of the keys comes to the end and the other in front of
an entry, both of them new. -/
structure ShiftsLine (content key other : Text) : Prop where
  returned : ['\n', '\r'] <:+ content
  fresh : key ∉ (definitions content).map (·.1)
  otherFresh : other ∉ (definitions content).map (·.1)
  oneLast : ¬(HasLater content key ↔ HasLater content other)

/-- A key behind which an entry comes stands in front of a key behind which none comes. -/
theorem isAfter_of_hasLater {content key other : Text} (later : HasLater content key)
    (last : ¬HasLater content other) (different : Text.lowercase key ≠ Text.lowercase other) :
    isAfter other key = true := by
  rcases isAfter_total different with before | after
  · obtain ⟨definition, member, behind⟩ := later
    exact absurd ⟨definition, member, isAfter_trans before behind⟩ last
  · exact after

/-- The second key comes behind a lost line exactly if it comes to the end. -/
theorem losesLine_and_last_iff {content key other : Text}
    (different : Text.lowercase key ≠ Text.lowercase other) :
    LosesLine content key ∧ ¬(isAfter key other = true ∨ HasLater content other) ↔
      ['\n', '\r'] <:+ content ∧ HasLater content key ∧ ¬HasLater content other := by
  rw [LosesLine, not_or, and_assoc]
  refine and_congr_right fun _ => and_congr_right fun later => and_iff_right_of_imp fun last => ?_
  rw [isAfter_asymm (isAfter_of_hasLater later last different)]
  exact Bool.false_ne_true

/-- Another key is accepted or refused as before. -/
theorem isSome_insert?_after (content : Text) {addition : Addition} (isKey : IsKey addition.key)
    (isTemplate : IsTemplate addition.value) {key : Text} (different : key ≠ addition.key)
    (value : Text) :
    (insert? (insertAll content [addition]).1 key value).isSome =
      (insert? content key value).isSome := by
  have writable : ∀ other ∈ [addition], IsKey other.key ∧ IsTemplate other.value :=
    List.forall_mem_singleton.mpr ⟨isKey, isTemplate⟩
  rw [Bool.eq_iff_iff, insert?_isSome_iff, insert?_isSome_iff, lookup_insertAll writable,
    List.map_singleton, List.lookup_cons, beq_false_of_ne different, List.lookup_nil,
    Option.or_none]

section Pair

variable {content : Text} {a b : Addition} (isKey : IsKey a.key ∧ IsKey b.key)
  (isTemplate : IsTemplate a.value ∧ IsTemplate b.value)
  (different : Text.lowercase a.key ≠ Text.lowercase b.key)
include isKey isTemplate different

/-- If one of two additions is refused, the other one alone is made. -/
theorem insertAll_pair_of_none (refused : insert? content a.key a.value = none) :
    (insertAll content [a, b]).1 = (insertAll content [b, a]).1 := by
  have apart : a.key ≠ b.key := fun same => different (congrArg _ same)
  have again := isSome_insert?_after content isKey.2 isTemplate.2 apart a.value
  rw [refused, Option.isSome_none, Option.isSome_eq_false_iff, Option.isNone_iff_eq_none] at again
  rw [insertAll_of_none refused]
  cases inserted : insert? content b.key b.value with
  | none => rw [insertAll_of_none inserted, insertAll_of_none inserted, insertAll_of_none refused]
  | some changed =>
    rw [insertAll_of_some inserted, insertAll] at again
    rw [insertAll_of_some inserted, insertAll_of_some inserted, insertAll_of_none again]

/-- Two additions that are both made, in either order. -/
theorem insertAll_pair_of_some {changed other : Text}
    (first : insert? content a.key a.value = some changed)
    (second : insert? content b.key b.value = some other) (file : Text) :
    definitions (insertAll content [a, b]).1 = definitions (insertAll content [b, a]).1 ∧
      (parse (insertAll content [a, b]).1 file = parse (insertAll content [b, a]).1 file ↔
        ¬(['\n', '\r'] <:+ content ∧ ¬(HasLater content a.key ↔ HasLater content b.key))) := by
  have apart : a.key ≠ b.key := fun same => different (congrArg _ same)
  have afterA := isSome_insert?_after content isKey.1 isTemplate.1 apart.symm b.value
  have afterB := isSome_insert?_after content isKey.2 isTemplate.2 apart a.value
  rw [insertAll_of_some first, insertAll, second] at afterA
  rw [insertAll_of_some second, insertAll, first] at afterB
  obtain ⟨left, leftDone⟩ := Option.isSome_iff_exists.mp afterA
  obtain ⟨right, rightDone⟩ := Option.isSome_iff_exists.mp afterB
  rw [insertAll_of_some first, insertAll_of_some leftDone, insertAll,
    insertAll_of_some second, insertAll_of_some rightDone, insertAll]
  have same : withDefinition (withDefinition (existingSlots content) a.key a.value) b.key b.value =
      withDefinition (withDefinition (existingSlots content) b.key b.value) a.key a.value := by
    rcases isAfter_total different with before | after
    · exact (withDefinition_comm before _ _ _).symm
    · exact withDefinition_comm after _ _ _
  have leftIff := parse_twice_iff isKey.1 isTemplate.1 first isKey.2 isTemplate.2 leftDone file
  have rightIff := parse_twice_iff isKey.2 isTemplate.2 second isKey.1 isTemplate.1 rightDone file
  rw [same, hasLater_insert? isKey.1 isTemplate.1 first, losesLine_and_last_iff different]
    at leftIff
  rw [hasLater_insert? isKey.2 isTemplate.2 second, losesLine_and_last_iff different.symm]
    at rightIff
  refine ⟨?_, ?_⟩
  · rw [definitions_insert? isKey.2 isTemplate.2 leftDone,
      definitions_insert? isKey.1 isTemplate.1 first,
      definitions_insert? isKey.1 isTemplate.1 rightDone,
      definitions_insert? isKey.2 isTemplate.2 second, definitions_eq_existing,
      ← reduceOption_withDefinition, ← reduceOption_withDefinition, same,
      reduceOption_withDefinition, reduceOption_withDefinition]
  · -- At most one of the two orders loses the line in front of the other key.
    constructor
    · rintro alike ⟨returned, oneLast⟩
      rw [alike] at leftIff
      by_cases later : HasLater content a.key
      · have last : ¬HasLater content b.key := fun both => oneLast (iff_of_true later both)
        exact leftIff.mp (rightIff.mpr fun lost => lost.2.2 later) ⟨returned, later, last⟩
      · have other : HasLater content b.key := by
          by_contra last
          exact oneLast (iff_of_false later last)
        exact rightIff.mp (leftIff.mpr fun lost => later lost.2.1) ⟨returned, other, later⟩
    · intro kept
      have leftKept := leftIff.mpr fun lost =>
        kept ⟨lost.1, fun alike => lost.2.2 (alike.mp lost.2.1)⟩
      have rightKept := rightIff.mpr fun lost =>
        kept ⟨lost.1, fun alike => lost.2.2 (alike.mpr lost.2.1)⟩
      exact leftKept.trans rightKept.symm

end Pair

/-- Two additions are accepted alike in either order, and give the same keys and templates in the
same order. The line numbers differ exactly if a last line is lost between them. -/
theorem additions_commute_iff {content : Text} {a b : Addition}
    (isKey : IsKey a.key ∧ IsKey b.key) (isTemplate : IsTemplate a.value ∧ IsTemplate b.value)
    (different : Text.lowercase a.key ≠ Text.lowercase b.key) (file : Text) :
    (insert? (insertAll content [b]).1 a.key a.value).isSome =
        (insert? content a.key a.value).isSome ∧
      (insert? (insertAll content [a]).1 b.key b.value).isSome =
        (insert? content b.key b.value).isSome ∧
      definitions (insertAll content [a, b]).1 = definitions (insertAll content [b, a]).1 ∧
      (parse (insertAll content [a, b]).1 file = parse (insertAll content [b, a]).1 file ↔
        ¬ShiftsLine content a.key b.key) := by
  have apart : a.key ≠ b.key := fun same => different (congrArg _ same)
  refine ⟨isSome_insert?_after content isKey.2 isTemplate.2 apart _,
    isSome_insert?_after content isKey.1 isTemplate.1 apart.symm _, ?_⟩
  cases first : insert? content a.key a.value with
  | none =>
    rw [insertAll_pair_of_none isKey isTemplate different first]
    exact ⟨rfl, iff_of_true rfl fun shifts => shifts.fresh (insert?_eq_none_iff.mp first)⟩
  | some changed =>
    cases second : insert? content b.key b.value with
    | none =>
      rw [insertAll_pair_of_none isKey.symm isTemplate.symm different.symm second]
      exact ⟨rfl, iff_of_true rfl fun shifts => shifts.otherFresh (insert?_eq_none_iff.mp second)⟩
    | some other =>
      obtain ⟨same, parsed⟩ := insertAll_pair_of_some isKey isTemplate different first second file
      refine ⟨same, parsed.trans (not_congr ⟨?_, ?_⟩)⟩
      · rintro ⟨returned, oneLast⟩
        exact ⟨returned, not_mem_keys_of_insert? first, not_mem_keys_of_insert? second, oneLast⟩
      · intro shifts
        exact ⟨shifts.returned, shifts.oneLast⟩

/-- A file that is not in order, with a comment and without a final line end. -/
def unorderedLines : Text := "d=4\n\n# keys\nb = 2".toList

theorem additions_commute_iff_unordered :
    let file := "m.properties".toList
    let a : Addition := ⟨file, ['C'], ['3']⟩
    let b : Addition := ⟨file, ['e'], ['5']⟩
    (IsKey a.key ∧ IsKey b.key) ∧ (IsTemplate a.value ∧ IsTemplate b.value) ∧
      Text.lowercase a.key ≠ Text.lowercase b.key ∧
      (insertAll unorderedLines [a]).1 ≠ (insertAll unorderedLines [b]).1 ∧
      parse (insertAll unorderedLines [a, b]).1 file =
        parse (insertAll unorderedLines [b, a]).1 file := by
  intro file a b
  have isKey : IsKey a.key ∧ IsKey b.key := ⟨by decide +kernel, by decide +kernel⟩
  have isTemplate : IsTemplate a.value ∧ IsTemplate b.value :=
    ⟨⟨by decide +kernel, by decide +kernel⟩, ⟨by decide +kernel, by decide +kernel⟩⟩
  have different : Text.lowercase a.key ≠ Text.lowercase b.key := by decide +kernel
  have kept : ¬ShiftsLine unorderedLines a.key b.key := by
    intro shifts
    exact absurd shifts.returned (by decide +kernel)
  obtain ⟨_, _, _, commutes⟩ := additions_commute_iff isKey isTemplate different file
  exact ⟨isKey, isTemplate, different, by decide +kernel, commutes.mpr kept⟩

/-- Where the last line is a carriage return, the order of two additions shows in the line of the
second. -/
theorem order_shows_in_line :
    let file := "m.properties".toList
    let a : Addition := ⟨file, ['a'], []⟩
    let z : Addition := ⟨file, ['z'], []⟩
    (IsKey a.key ∧ IsKey z.key) ∧ (IsTemplate a.value ∧ IsTemplate z.value) ∧
      Text.lowercase a.key ≠ Text.lowercase z.key ∧
      parse (insertAll "b=1\n\r".toList [a, z]).1 file =
        [⟨['a'], [], file, 1⟩, ⟨['b'], ['1'], file, 2⟩, ⟨['z'], [], file, 3⟩] ∧
      parse (insertAll "b=1\n\r".toList [z, a]).1 file =
        [⟨['a'], [], file, 1⟩, ⟨['b'], ['1'], file, 2⟩, ⟨['z'], [], file, 4⟩] ∧
      parse (insertAll "b=1\n\r".toList [a, z]).1 file ≠
        parse (insertAll "b=1\n\r".toList [z, a]).1 file := by
  intro file a z
  have one : parse (insertAll "b=1\n\r".toList [a, z]).1 file =
      [⟨['a'], [], file, 1⟩, ⟨['b'], ['1'], file, 2⟩, ⟨['z'], [], file, 3⟩] := by
    decide +kernel
  have other : parse (insertAll "b=1\n\r".toList [z, a]).1 file =
      [⟨['a'], [], file, 1⟩, ⟨['b'], ['1'], file, 2⟩, ⟨['z'], [], file, 4⟩] := by
    decide +kernel
  refine ⟨⟨by decide +kernel, by decide +kernel⟩,
    ⟨⟨by decide +kernel, by decide +kernel⟩, ⟨by decide +kernel, by decide +kernel⟩⟩,
    by decide +kernel, one, other, ?_⟩
  rw [one, other]
  decide

end MessageKeys.Properties
