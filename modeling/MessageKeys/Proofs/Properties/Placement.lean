import MessageKeys.Proofs.Properties.Insertion

/-!
Where a new definition comes to stand among the entries of a file.

The entries of a file are what its lines define, with the lines counted from one (`parse_eq`). A
line in front of others moves their entries down by one (`numbered_succ`), and a search among the
entries ends where the same search among the lines ends (`takeWhile_numbered`,
`dropWhile_numbered`). What an insertion does to the lines thus tells what it does to the entries:
`refused_iff_entry` and `insertion_adds_one_entry`.
-/
namespace MessageKeys

/-- The entry on the next line. -/
def Entry.movedDown (entry : Entry) : Entry := { entry with line := entry.line + 1 }

namespace Properties

/-- The entries of consecutive lines, the first of which has number `line`, by what each defines. -/
def numbered (file : Text) (line : Nat) : List (Option (Text × Text)) → List Entry
  | [] => []
  | slot :: more =>
    (slot.map fun (key, value) => ⟨key, value, file, line⟩).toList ++ numbered file (line + 1) more

theorem entriesFrom_eq (file : Text) (line : Nat) (texts : List Text) :
    entriesFrom file line texts = numbered file line (texts.map definition?) := by
  induction texts generalizing line with
  | nil => rfl
  | cons text more ih => rw [entriesFrom, ih, List.map_cons, numbered]

theorem parse_eq (content file : Text) :
    parse content file = numbered file 1 (definedLines content) :=
  entriesFrom_eq file 1 (lines content)

/-- An insertion is refused exactly when one of the entries has the key. -/
theorem refused_iff_entry (content key value file : Text) :
    insert? content key value = none ↔ ∃ entry ∈ parse content file, entry.key = key := by
  rw [insert?_eq_none_iff, ← keys_parse content file, List.mem_map]

section Numbering

variable (file : Text) (line : Nat)

theorem numbered_append (front back : List (Option (Text × Text))) :
    numbered file line (front ++ back) =
      numbered file line front ++ numbered file (line + front.length) back := by
  induction front generalizing line with
  | nil => rfl
  | cons slot more ih =>
    have count : line + 1 + more.length = line + (more.length + 1) := by omega
    rw [List.cons_append, numbered, numbered, ih, List.length_cons, count, List.append_assoc]

/-- Lines that begin one further down. -/
theorem numbered_succ (slots : List (Option (Text × Text))) :
    numbered file (line + 1) slots = (numbered file line slots).map Entry.movedDown := by
  induction slots generalizing line with
  | nil => rfl
  | cons slot more ih =>
    rw [numbered, numbered, ih, List.map_append]
    cases slot <;> rfl

theorem numbered_of_blankEnd {slots whole : List (Option (Text × Text))}
    (ends : BlankEnd slots whole) : numbered file line whole = numbered file line slots := by
  rcases ends with rfl | rfl
  · rfl
  · rw [numbered_append]
    exact List.append_nil _

/-- The entries lie between the first line and the last. -/
theorem line_of_mem_numbered {slots : List (Option (Text × Text))} {entry : Entry}
    (member : entry ∈ numbered file line slots) :
    line ≤ entry.line ∧ entry.line < line + slots.length := by
  induction slots generalizing line with
  | nil => cases member
  | cons slot more ih =>
    rw [List.length_cons]
    rcases List.mem_append.mp member with here | later
    · cases slot with
      | none => cases here
      | some definition =>
        have same : entry.line = line := by rw [List.mem_singleton.mp here]
        omega
    · have bounds := ih (line + 1) later
      omega

theorem pairwise_numbered (slots : List (Option (Text × Text))) :
    (numbered file line slots).Pairwise fun entry other => entry.line < other.line := by
  induction slots generalizing line with
  | nil => exact .nil
  | cons slot more ih =>
    rw [numbered]
    cases slot with
    | none => exact ih (line + 1)
    | some definition =>
      refine List.pairwise_cons.mpr ⟨?_, ih (line + 1)⟩
      intro other later
      exact (line_of_mem_numbered file (line + 1) later).1

variable (p : Text × Text → Bool)

theorem takeWhile_numbered (slots : List (Option (Text × Text))) :
    (numbered file line slots).takeWhile (fun entry => p (entry.key, entry.value)) =
      numbered file line (slots.takeWhile (·.all p)) := by
  induction slots generalizing line with
  | nil => rfl
  | cons slot more ih =>
    cases slot with
    | none => exact ih (line + 1)
    | some definition =>
      cases holds : p definition with
      | true => simp [numbered, holds, ih]
      | false => simp [numbered, holds]

theorem dropWhile_numbered (slots : List (Option (Text × Text))) :
    (numbered file line slots).dropWhile (fun entry => p (entry.key, entry.value)) =
      numbered file (line + (slots.takeWhile (·.all p)).length) (slots.dropWhile (·.all p)) := by
  have whole : (numbered file line slots).takeWhile (fun entry => p (entry.key, entry.value)) ++
      (numbered file line slots).dropWhile (fun entry => p (entry.key, entry.value)) =
      numbered file line (slots.takeWhile (·.all p) ++ slots.dropWhile (·.all p)) := by
    rw [List.takeWhile_append_dropWhile, List.takeWhile_append_dropWhile]
  rw [takeWhile_numbered, numbered_append] at whole
  exact List.append_cancel_left whole

end Numbering

/-- An insertion adds one entry, in front of the first one whose key is greater regardless of letter
case. The entries before it stay, those behind it move one line down. -/
theorem insertion_adds_one_entry {content key value changed : Text} (isKey : IsKey key)
    (isTemplate : IsTemplate value) (inserted : insert? content key value = some changed)
    (file : Text) :
    let before := (parse content file).takeWhile fun entry => !isAfter entry.key key
    let after := (parse content file).dropWhile fun entry => !isAfter entry.key key
    ∃ line, parse changed file = before ++ ⟨key, value, file, line⟩ :: after.map Entry.movedDown ∧
      (∀ entry ∈ before, entry.line < line) ∧ ∀ entry ∈ after, line ≤ entry.line := by
  intro before after
  obtain ⟨slots, old, new⟩ := definedLines_insert? isKey isTemplate inserted
  let front := slots.takeWhile (·.all (precedes key))
  let back := slots.dropWhile (·.all (precedes key))
  have entries : parse content file = numbered file 1 slots := by
    rw [parse_eq, numbered_of_blankEnd file 1 old]
  have kept : before = numbered file 1 front := by
    rw [← takeWhile_numbered, ← entries]
    rfl
  have moved : after = numbered file (1 + front.length) back := by
    rw [← dropWhile_numbered, ← entries]
    rfl
  refine ⟨1 + front.length, ?_, ?_, ?_⟩
  · rw [parse_eq, numbered_of_blankEnd file 1 new, kept, moved, ← numbered_succ]
    exact numbered_append file 1 front _
  · intro entry member
    rw [kept] at member
    exact (line_of_mem_numbered file 1 member).2
  · intro entry member
    rw [moved] at member
    exact (line_of_mem_numbered file _ member).1

/-- Lines with different ends, one without an equals sign, and none at the end. -/
def mixedLines : Text := "# keys\r\nB\n\r\nD = 4\r\r\n e=5".toList

theorem insertion_adds_one_entry_mixedLines :
    let file := "m.properties".toList
    let changed := "# keys\r\nB\r\n\r\nC=3\r\nD = 4\r\r\n e=5".toList
    IsKey ['C'] ∧ IsTemplate ['3'] ∧ insert? mixedLines ['C'] ['3'] = some changed ∧
      ∃ line, parse changed file =
        [⟨['B'], [], file, 2⟩, ⟨['C'], ['3'], file, line⟩, ⟨['D'], ['4'], file, 5⟩,
          ⟨['e'], ['5'], file, 6⟩] := by
  intro file changed
  have isKey : IsKey ['C'] := by decide +kernel
  have isTemplate : IsTemplate ['3'] := ⟨by decide +kernel, by decide +kernel⟩
  have inserted : insert? mixedLines ['C'] ['3'] = some changed := by decide +kernel
  obtain ⟨line, entries, _⟩ := insertion_adds_one_entry isKey isTemplate inserted file
  refine ⟨isKey, isTemplate, inserted, line, entries.trans ?_⟩
  have before : (parse mixedLines file).takeWhile (fun entry => !isAfter entry.key ['C']) =
      [⟨['B'], [], file, 2⟩] := by
    decide +kernel
  have after : ((parse mixedLines file).dropWhile fun entry => !isAfter entry.key ['C']) =
      [⟨['D'], ['4'], file, 4⟩, ⟨['e'], ['5'], file, 5⟩] := by
    decide +kernel
  rw [before, after]
  rfl

end Properties

end MessageKeys
