import MessageKeys.Proofs.Properties.Batch

/-!
Additions to a file that is in order.

A file is in order if its keys go up regardless of letter case and none is there twice; keys that
differ only in letter case may stand in any order. The place of a new key divides such a file into
keys that do not come after it and keys that do (`isAfter_of_mem_dropWhile`), so that one insertion
keeps the order (`IsOrdered.insert?`), and by induction every run of additions does
(`IsOrdered.insertAll`). With distinct keys the definitions of a file are those that a lookup finds
(`mem_iff_lookup`), and what a lookup finds after the additions is known.
-/
namespace MessageKeys.Properties

/-- Whether keys go up regardless of letter case, and none is there twice. -/
structure IsOrdered (keys : List Text) : Prop where
  ascending : keys.Pairwise fun key other =>
    Text.le (Text.lowercase key) (Text.lowercase other) = true
  distinct : keys.Nodup

theorem le_iff_not_isAfter {key other : Text} :
    Text.le (Text.lowercase key) (Text.lowercase other) = true ↔ isAfter key other = false := by
  rw [Text.le, isAfter]
  cases compare (Text.lowercase key) (Text.lowercase other) <;> decide

theorem not_isAfter_of_mem_takeWhile {found : List (Text × Text)} {key : Text}
    {definition : Text × Text} (member : definition ∈ found.takeWhile (precedes key)) :
    isAfter definition.1 key = false := by
  have before := List.all_eq_true.mp List.all_takeWhile definition member
  simpa [precedes] using before

/-- Behind the place of a key in an ordered file all keys come after it. -/
theorem isAfter_of_mem_dropWhile {found : List (Text × Text)} {key : Text}
    (ordered : IsOrdered (found.map (·.1))) {definition : Text × Text}
    (member : definition ∈ found.dropWhile (precedes key)) :
    isAfter definition.1 key = true := by
  have ascending := (List.pairwise_map.mp ordered.ascending).sublist
    (List.dropWhile_sublist (precedes key))
  have first := List.head?_dropWhile_not (precedes key) found
  cases behind : found.dropWhile (precedes key) with
  | nil =>
    rw [behind] at member
    cases member
  | cons lead more =>
    rw [behind] at member ascending first
    have leadAfter : isAfter lead.1 key = true := by simpa [precedes] using first
    rcases List.mem_cons.mp member with rfl | later
    · exact leadAfter
    · have upwards := (List.pairwise_cons.mp ascending).1 definition later
      rw [isAfter_iff] at leadAfter ⊢
      exact Std.TransCmp.lt_of_lt_of_isLE leadAfter upwards

/-- An insertion keeps the order. -/
theorem IsOrdered.insert? {content key value changed : Text}
    (ordered : IsOrdered ((definitions content).map (·.1))) (isKey : IsKey key)
    (isTemplate : IsTemplate value)
    (inserted : Properties.insert? content key value = some changed) :
    IsOrdered ((definitions changed).map (·.1)) := by
  have parts : (definitions content).takeWhile (precedes key) ++
      (definitions content).dropWhile (precedes key) = definitions content :=
    List.takeWhile_append_dropWhile
  have ascending := ordered.ascending
  rw [← parts, List.map_append, List.pairwise_append] at ascending
  obtain ⟨front, back, across⟩ := ascending
  rw [definitions_insert? isKey isTemplate inserted, List.map_append, List.map_cons]
  refine ⟨?_, ?_⟩
  · have behind : ∀ other ∈ ((definitions content).dropWhile (precedes key)).map (·.1),
        Text.le (Text.lowercase key) (Text.lowercase other) = true := by
      intro other member
      obtain ⟨definition, inside, rfl⟩ := List.mem_map.mp member
      exact le_iff_not_isAfter.mpr (isAfter_asymm (isAfter_of_mem_dropWhile ordered inside))
    refine List.pairwise_append.mpr ⟨front, List.pairwise_cons.mpr ⟨behind, back⟩, ?_⟩
    intro other before next member
    rcases List.mem_cons.mp member with rfl | after
    · obtain ⟨definition, inside, rfl⟩ := List.mem_map.mp before
      exact le_iff_not_isAfter.mpr (not_isAfter_of_mem_takeWhile inside)
    · exact across other before next after
  · rw [List.perm_middle.nodup_iff, ← List.map_append, parts, List.nodup_cons]
    exact ⟨not_mem_keys_of_insert? inserted, ordered.distinct⟩

/-- So does a run of additions. -/
theorem IsOrdered.insertAll {content : Text} {additions : List Addition}
    (ordered : IsOrdered ((definitions content).map (·.1)))
    (writable : ∀ addition ∈ additions, IsKey addition.key ∧ IsTemplate addition.value) :
    IsOrdered ((definitions (insertAll content additions).1).map (·.1)) := by
  induction additions generalizing content with
  | nil => exact ordered
  | cons addition more ih =>
    obtain ⟨isKey, isTemplate⟩ := writable addition List.mem_cons_self
    have rest := fun other member => writable other (List.mem_cons_of_mem _ member)
    rw [Properties.insertAll]
    cases inserted : Properties.insert? content addition.key addition.value with
    | none => exact ih ordered rest
    | some changed => exact ih (ordered.insert? isKey isTemplate inserted) rest

/-- Among distinct keys a lookup finds every definition. -/
theorem mem_iff_lookup {found : List (Text × Text)} (distinct : (found.map (·.1)).Nodup)
    {key value : Text} : (key, value) ∈ found ↔ found.lookup key = some value := by
  rw [List.lookup_eq_some_iff]
  constructor
  · intro member
    obtain ⟨front, back, whole⟩ := List.append_of_mem member
    refine ⟨front, back, whole, ?_⟩
    intro definition before
    rw [bne_iff_ne]
    rintro rfl
    rw [whole, List.map_append, List.map_cons, List.perm_middle.nodup_iff, List.nodup_cons]
      at distinct
    exact distinct.1 (List.mem_append_left _ (List.mem_map.mpr ⟨definition, before, rfl⟩))
  · rintro ⟨front, back, whole, _⟩
    rw [whole]
    simp

/-- An ordered file stays in order with every step of a run of additions, and what it defines are
its old definitions and, for every key that it did not define, the first one that was to be
added. -/
theorem additions_keep_order {content : Text} {additions : List Addition}
    (writable : ∀ addition ∈ additions, IsKey addition.key ∧ IsTemplate addition.value)
    (file : Text) (ordered : IsOrdered ((parse content file).map (·.key))) {done : List Addition}
    (reached : done <+: additions) :
    IsOrdered ((parse (insertAll content done).1 file).map (·.key)) ∧
      ∀ key value,
        (∃ entry ∈ parse (insertAll content done).1 file, entry.key = key ∧ entry.value = value) ↔
          (∃ entry ∈ parse content file, entry.key = key ∧ entry.value = value) ∨
            (∀ entry ∈ parse content file, entry.key ≠ key) ∧
              (done.map fun addition => (addition.key, addition.value)).lookup key =
                some value := by
  have pairs : ∀ text key value : Text,
      (∃ entry ∈ parse text file, entry.key = key ∧ entry.value = value) ↔
        (key, value) ∈ definitions text := by
    intro text key value
    simp only [← parse_definitions text file, List.mem_map, Prod.mk.injEq]
  rw [keys_parse] at ordered ⊢
  have someWritable := fun addition member => writable addition (reached.subset member)
  have kept := ordered.insertAll someWritable
  refine ⟨kept, ?_⟩
  intro key value
  have absent : (∀ entry ∈ parse content file, entry.key ≠ key) ↔
      (definitions content).lookup key = none := by
    rw [lookup_eq_none_iff, ← keys_parse content file, List.mem_map]
    simp
  rw [pairs, pairs, absent, mem_iff_lookup kept.distinct, mem_iff_lookup ordered.distinct,
    lookup_insertAll someWritable, Option.or_eq_some_iff]

/-- A file in order, and additions to it: a key that differs in letter case only, a key that is
defined, one in front of all and one that was added before. -/
def orderedLines : Text := "# keys\nb = 1\n\nD\n".toList

def severalAdditions : List Addition :=
  [(['B'], ['2']), (['b'], ['9']), (['A'], []), (['B'], ['7'])].map fun (key, value) =>
    ⟨"m.properties".toList, key, value⟩

theorem additions_keep_order_letterCase :
    let file := "m.properties".toList
    let changed := (insertAll orderedLines severalAdditions).1
    (∀ addition ∈ severalAdditions, IsKey addition.key ∧ IsTemplate addition.value) ∧
      IsOrdered ((parse orderedLines file).map (·.key)) ∧
      changed = "# keys\nA=\nb = 1\n\nB=2\nD\n".toList ∧
      IsOrdered ((parse changed file).map (·.key)) ∧
      ∃ entry ∈ parse changed file, entry.key = ['B'] ∧ entry.value = ['2'] := by
  intro file changed
  have writable : ∀ addition ∈ severalAdditions,
      IsKey addition.key ∧ IsTemplate addition.value := by
    have checked : ∀ addition ∈ severalAdditions, IsKey addition.key ∧
        Text.trim addition.value = addition.value ∧ '\n' ∉ addition.value := by
      decide +kernel
    intro addition member
    obtain ⟨isKey, trimmed, single⟩ := checked addition member
    exact ⟨isKey, trimmed, single⟩
  have ordered : IsOrdered ((parse orderedLines file).map (·.key)) :=
    ⟨by decide +kernel, by decide +kernel⟩
  obtain ⟨kept, defined⟩ :=
    additions_keep_order writable file ordered (List.prefix_refl severalAdditions)
  refine ⟨writable, ordered, by decide +kernel, kept, (defined _ _).mpr (.inr ⟨?_, ?_⟩)⟩
  · decide +kernel
  · decide +kernel

end MessageKeys.Properties
