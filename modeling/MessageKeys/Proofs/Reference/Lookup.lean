import MessageKeys.Command.Inspect
import MessageKeys.Proofs.Issue.Undefined
import MessageKeys.Proofs.Source.LineText
import MessageKeys.Proofs.Source.Position

/-!
From a place in a key back to the key.

Two literals that method calls refer to are the same or have a quote between them, so that a
position in a key, or just behind it, belongs to one reference (`eq_of_covers`). Line and column of
such a position lead back to a position of the same key (`covers_of_offsetOf?`): what may be lost on
the way are line ends, and a key does not begin with one. A place is also read back as it was
written, so that the place of an undefined key, looked up, gives the key.
-/
namespace MessageKeys

open Text Call

/-! ## One reference at a position -/

/-- A position in a literal divides its text into what stands in front of the position, back to the
last quote, and what follows, up to the next quote. -/
theorem InLiteral.divided {before left right behind : Text}
    (literal : InLiteral before (left ++ right) behind) :
    left = ((before ++ left).reverse.takeWhile fun c => !Quoting.isQuote c).reverse ∧
      right = (right ++ behind).takeWhile fun c => !Quoting.isQuote c := by
  obtain ⟨front, quote, rfl, opening⟩ := literal.opened
  obtain ⟨closing, rest, rfl, shut⟩ := literal.closed
  have plainLeft : ∀ c ∈ left.reverse, (!Quoting.isQuote c) = true := by
    intro c member
    simpa using literal.plain c (List.mem_append_left _ (List.mem_reverse.mp member))
  have plainRight : ∀ c ∈ right, (!Quoting.isQuote c) = true := by
    intro c member
    simpa using literal.plain c (List.mem_append_right _ member)
  constructor
  · rw [List.reverse_append, List.takeWhile_append_of_pos plainLeft]
    simp [opening]
  · rw [List.takeWhile_append_of_pos plainRight]
    simp [shut]

/-- Literals that a position belongs to are the same. -/
theorem InLiteral.unique {before text behind before' text' behind' front rest : Text}
    (literal : InLiteral before text behind) (literal' : InLiteral before' text' behind')
    (here : before ++ text ++ behind = front ++ rest)
    (there : before' ++ text' ++ behind' = front ++ rest)
    (begun : size before ≤ size front) (notOver : size front ≤ size before + size text)
    (begun' : size before' ≤ size front) (notOver' : size front ≤ size before' + size text') :
    before = before' ∧ text = text' := by
  obtain ⟨left, right, rfl, leads, follows⟩ := divided_of_size_le here begun notOver
  obtain ⟨left', right', rfl, leads', follows'⟩ := divided_of_size_le there begun' notOver'
  obtain ⟨backwards, onwards⟩ := literal.divided
  obtain ⟨backwards', onwards'⟩ := literal'.divided
  have sameLeft : left = left' := by
    rw [backwards, backwards', ← leads, ← leads']
  have sameRight : right = right' := by
    rw [onwards, onwards', ← follows, ← follows']
  rw [sameLeft, sameRight]
  rw [leads, sameLeft] at leads'
  exact ⟨List.append_cancel_right leads', rfl⟩

theorem Reference.covers_iff {reference : Reference} {offset : Nat} :
    reference.covers offset = true ↔
      reference.start ≤ offset ∧ offset ≤ reference.start + size reference.key := by
  rw [covers, Bool.and_eq_true, decide_eq_true_eq, decide_eq_true_eq]
  rfl

/-- The key of a literal stands within the literal. -/
theorem Reference.within_of_ofRaw? {start : Nat} {raw : Text} {reference : Reference}
    (made : ofRaw? start raw = some reference) :
    start ≤ reference.start ∧ reference.start + size reference.key ≤ start + size raw := by
  have bound := (stands_trim raw).stop_le
  unfold ofRaw? at made
  split at made
  · cases made
  · cases made
    dsimp only
    omega

variable {m : Matcher} {source : Text} {reference other : Reference}

theorem literal_of_mem_references (plain : m.annotations = [])
    (member : reference ∈ m.references source) :
    ∃ before raw behind, source = before ++ raw ++ behind ∧ InLiteral before raw behind ∧
      Reference.ofRaw? (size before) raw = some reference := by
  rw [Matcher.references, plain, List.flatMap_nil, List.append_nil] at member
  obtain ⟨name, _, inside⟩ := List.mem_flatMap.mp member
  exact literal_of_mem_methodReferences inside

/-- References of method calls that cover a position are the same. -/
theorem eq_of_covers (plain : m.annotations = []) (here : reference ∈ m.references source)
    (there : other ∈ m.references source) {front rest : Text} (cut : source = front ++ rest)
    (covered : reference.covers (size front) = true) (also : other.covers (size front) = true) :
    reference = other := by
  obtain ⟨before, raw, behind, whole, literal, made⟩ := literal_of_mem_references plain here
  obtain ⟨before', raw', behind', whole', literal', made'⟩ := literal_of_mem_references plain there
  have bounds := Reference.within_of_ofRaw? made
  have bounds' := Reference.within_of_ofRaw? made'
  rw [Reference.covers_iff] at covered also
  obtain ⟨rfl, rfl⟩ := literal.unique literal' (whole.symm.trans cut) (whole'.symm.trans cut)
    (by omega) (by omega) (by omega) (by omega)
  rw [made, Option.some.injEq] at made'
  exact made'

/-- The reference that covers a position is the one that is found there. -/
theorem referenceAt?_of_covers (plain : m.annotations = [])
    (member : reference ∈ m.references source) {front rest : Text} (cut : source = front ++ rest)
    (covered : reference.covers (size front) = true) :
    m.referenceAt? source (size front) = some reference := by
  unfold Matcher.referenceAt?
  cases found : (m.references source).find? (·.covers (size front)) with
  | none => exact absurd covered (by simpa using List.find?_eq_none.mp found reference member)
  | some first =>
    have also := List.find?_some found
    rw [eq_of_covers plain member (List.mem_of_find?_eq_some found) cut covered also]

/-! ## Back from line and column -/

theorem isBlank_of_isLineEnd {c : Char} (lineEnd : isLineEnd c = true) : isBlank c = true := by
  simp only [isLineEnd, Bool.or_eq_true, beq_iff_eq] at lineEnd
  rcases lineEnd with rfl | rfl <;> decide

/-- A key begins with a character that is not blank. -/
theorem Reference.exists_first_of_ofRaw? {start : Nat} {raw : Text} {reference : Reference}
    (made : ofRaw? start raw = some reference) :
    ∃ c rest, reference.key = c :: rest ∧ isBlank c = false := by
  unfold ofRaw? at made
  split at made
  · cases made
  next filled =>
    cases made
    obtain ⟨c, rest, shape⟩ := List.exists_cons_of_ne_nil filled
    have trimmed := isTrimmed_trim raw
    rw [shape] at trimmed
    exact ⟨c, rest, shape, trimmed.not_blank⟩

/-- The line ends in front of a position do not reach back over a part that begins with a character
which is not blank, if the position stands in this part or just behind it. -/
theorem size_le_of_lineEnds {front part behind before after kept ends : Text}
    (whole : front ++ part ++ behind = before ++ after) (begun : size front ≤ size before)
    (notOver : size before ≤ size front + size part)
    (first : ∃ c rest, part = c :: rest ∧ isBlank c = false) (cut : before = kept ++ ends)
    (lineEnds : ∀ c ∈ ends, isLineEnd c = true)
    (atEnd : ends = [] ∨ ∀ c ∈ firstLine after, isLineEnd c = true) :
    size front ≤ size kept := by
  by_cases reached : size kept < size front
  · obtain ⟨left, right, parts, leads, follows⟩ := divided_of_size_le whole begun notOver
    obtain ⟨c, rest, shape, inked⟩ := first
    have inkedEnd : isLineEnd c = false := by
      cases lineEnd : isLineEnd c with
      | false => rfl
      | true => rw [isBlank_of_isLineEnd lineEnd] at inked; cases inked
    obtain ⟨between, _, tail⟩ :=
      append_of_size_le (cut.symm.trans leads) (Nat.le_of_lt reached)
    rw [shape] at parts
    cases left with
    | cons d others =>
      -- The first character of the part stands among the line ends.
      have same : c = d := (List.cons.inj parts).1
      have lineEnd := lineEnds d (by rw [tail]; simp)
      rw [← same, inkedEnd] at lineEnd
      cases lineEnd
    | nil =>
      -- The first character of the part is the next one, and the line goes on with it.
      rcases atEnd with none | lineEnd
      · rw [none, List.append_nil] at cut
        rw [List.append_nil] at leads
        rw [← cut, leads] at reached
        omega
      · have notNewline : (c != '\n') = true := by
          simp only [isLineEnd, Bool.or_eq_false_iff] at inkedEnd
          simp [bne, inkedEnd.1]
        have next : c ∈ firstLine after := by
          rw [follows, ← show c :: rest = right from parts, List.cons_append, firstLine,
            List.takeWhile_cons, if_pos notNewline]
          exact List.mem_cons_self
        have impossible := lineEnd c next
        rw [inkedEnd] at impossible
        cases impossible
  · omega

/-- Line and column of a position that a reference covers lead back to such a position. -/
theorem covers_of_offsetOf? (plain : m.annotations = []) (member : reference ∈ m.references source)
    {before after : Text} (cut : source = before ++ after)
    (covered : reference.covers (size before) = true) :
    ∃ kept rest, source = kept ++ rest ∧ reference.covers (size kept) = true ∧
      ∀ line column, (LineIndex.ofText source).lineColumn (size before) = (line, column) →
        (LineIndex.ofText source).offsetOf? line column = some (size kept) := by
  obtain ⟨kept, ends, shape, lineEnds, atEnd, back⟩ := offsetOf?_lineColumn before after
  obtain ⟨_, _, _, _, _, made⟩ := literal_of_mem_references plain member
  obtain ⟨front, behind, whole, place⟩ := stands_of_mem_references member
  rw [Reference.covers_iff] at covered
  refine ⟨kept, ends ++ after, by rw [cut, shape, List.append_assoc], ?_, by rwa [cut]⟩
  have notBefore := size_le_of_lineEnds (whole.symm.trans cut) (by omega) (by omega)
    (Reference.exists_first_of_ofRaw? made) shape lineEnds atEnd
  have shorter := congrArg size shape
  rw [size_append] at shorter
  rw [Reference.covers_iff]
  omega

/-! ## Places that lead to references -/

/-- There are no more lines and columns than bytes, but for the last of each. -/
theorem lineColumn_le {before after : Text} {line column : Nat}
    (place : (LineIndex.ofText (before ++ after)).lineColumn (size before) = (line, column)) :
    line ≤ size (before ++ after) + 1 ∧ column ≤ size (before ++ after) + 1 := by
  rw [lineColumn_append, Prod.mk.injEq] at place
  have lines : before.count '\n' ≤ before.length := List.count_le_length
  have columns : (lastLine before).length ≤ before.length := by
    have parts := congrArg List.length (beforeLastLine_append_lastLine before)
    rw [List.length_append] at parts
    omega
  have bytes := length_le_size before
  rw [size_append]
  omega

/-- A place leads to a reference: it is read back as it is written, and at the position of its line
and column the reference is found. Reading back needs numbers that fit a word, which those of every
text that memory can hold do. -/
structure Resolves (m : Matcher) (source : Text) (place : Location) (reference : Reference) :
    Prop where
  written : size source < wordMax → Location.ofText place.toText = .ok place
  found : ∃ offset, (LineIndex.ofText source).offsetOf? place.line place.column = some offset ∧
    m.referenceAt? source offset = some reference

theorem resolves_of_covers (plain : m.annotations = []) (member : reference ∈ m.references source)
    {before after : Text} (cut : source = before ++ after)
    (covered : reference.covers (size before) = true) {line column : Nat}
    (place : (LineIndex.ofText source).lineColumn (size before) = (line, column)) (path : Text) :
    Resolves m source ⟨path, line, column⟩ reference := by
  obtain ⟨kept, rest, parts, still, back⟩ := covers_of_offsetOf? plain member cut covered
  constructor
  · intro fits
    rw [cut] at place fits
    have bounds := lineColumn_le place
    apply Location.ofText_toText <;> dsimp only <;> omega
  · exact ⟨size kept, back line column place, referenceAt?_of_covers plain member parts still⟩

/-- Looking up a place that leads to a reference gives its key. -/
theorem Resolves.keyAt {place : Location} (resolves : Resolves m source place reference)
    {tree : FileTree} (read : tree.readText place.file = .ok source) (fits : size source < wordMax) :
    Command.keyAt tree m place.toText = .ok (some reference.key) := by
  obtain ⟨offset, position, found⟩ := resolves.found
  simp only [Command.keyAt, resolves.written fits, read, position, Option.bind_some, found,
    Option.map_some]

/-- Every place in a key that method calls refer to, or just behind it, leads back to the reference,
and the place of every undefined key, looked up in the files that were checked, gives the key. -/
theorem places_resolve (names : List Text) :
    ∃ m, Matcher.ofTexts names [] = .ok m ∧
      (∀ source, ∀ reference ∈ m.references source, ∀ before after, source = before ++ after →
        reference.span.start ≤ size before → size before ≤ reference.span.stop →
        ∀ path line column,
          (LineIndex.ofText source).lineColumn (size before) = (line, column) →
          Resolves m source ⟨path, line, column⟩ reference) ∧
      ∀ sources catalog, ∀ issue ∈ undefinedKeyIssues sources m catalog, ∀ tree : FileTree,
        (∀ file ∈ sources,
          tree.readText file.path = .ok file.text ∧ size file.text < wordMax) →
        Command.keyAt tree m issue.context.location.toText = .ok (some issue.key) := by
  refine ⟨⟨MethodName.ofTexts (names ++ [Matcher.implicitMethod]), []⟩, rfl, ?_, ?_⟩
  · intro source reference member before after cut begun notOver path line column place
    exact resolves_of_covers rfl member cut (Reference.covers_iff.mpr ⟨begun, notOver⟩) place path
  · intro sources catalog issue member tree held
    obtain ⟨file, listed, inside⟩ := exists_file_of_mem_undefinedKeyIssues member
    obtain ⟨reference, found, _, rfl⟩ := exists_of_mem_fileUndefinedKeyIssues inside
    obtain ⟨front, behind, whole, start⟩ := stands_of_mem_references found
    have covered : reference.covers (size front) = true := by
      rw [Reference.covers_iff]
      omega
    have resolves := resolves_of_covers rfl found (whole.trans (List.append_assoc _ _ _)) covered
      rfl file.path
    rw [start] at resolves
    exact resolves.keyAt (held file listed).1 (held file listed).2

/-- A call whose key goes over two lines, in a file with a colon in its name. -/
def splitKeyFile : SourceFile := ⟨"a:b.java".toList, "f(x.log( 'é\r\nk ' ));".toList⟩

def splitKeyTree : FileTree := ⟨[([splitKeyFile.path], .file (.text splitKeyFile.text))]⟩

def splitKeyIssue : UndefinedKeyIssue :=
  ⟨⟨⟨splitKeyFile.path, 1, 11⟩, "f(x.log( 'é".toList⟩, "é\r\nk".toList⟩

/-- The place between the two characters that end the first line, and the one that is reported. -/
theorem places_resolve_splitKey :
    ∃ m, Matcher.ofTexts ["log".toList] [] = .ok m ∧
      Resolves m splitKeyFile.text ⟨"C:\\x.java".toList, 1, 13⟩ ⟨splitKeyIssue.key, 10⟩ ∧
      splitKeyIssue ∈ undefinedKeyIssues [splitKeyFile] m .empty ∧
      Command.keyAt splitKeyTree m "a:b.java:1:11".toList = .ok (some splitKeyIssue.key) := by
  obtain ⟨m, made, resolves, lookedUp⟩ := places_resolve ["log".toList]
  have known : m = ⟨MethodName.ofTexts ["log".toList, Matcher.implicitMethod], []⟩ := by
    have compiled : Matcher.ofTexts ["log".toList] [] =
        .ok ⟨MethodName.ofTexts ["log".toList, Matcher.implicitMethod], []⟩ := rfl
    rw [compiled, Except.ok.injEq] at made
    exact made.symm
  have reported : splitKeyIssue ∈ undefinedKeyIssues [splitKeyFile] m .empty := by
    rw [known, undefinedKeyIssues, List.mem_mergeSort]
    decide +kernel
  have held : ∀ file ∈ [splitKeyFile],
      splitKeyTree.readText file.path = .ok file.text ∧ size file.text < wordMax := by
    intro file member
    rw [List.mem_singleton.mp member]
    exact ⟨rfl, by decide⟩
  refine ⟨m, made, ?_, reported, ?_⟩
  · exact resolves splitKeyFile.text ⟨splitKeyIssue.key, 10⟩ (by rw [known]; decide +kernel)
      "f(x.log( 'é\r".toList "\nk ' ));".toList (by decide) (by decide) (by decide) _ _ _
      (by decide +kernel)
  · exact lookedUp [splitKeyFile] .empty splitKeyIssue reported splitKeyTree held

end MessageKeys
