import MessageKeys.Proofs.Call.Spans
import MessageKeys.Proofs.Issue.Placeholders
import MessageKeys.Proofs.Properties.Insertion
import MessageKeys.Proofs.Properties.Loading
import MessageKeys.Proofs.Reference.Lookup

/-!
What the place of an issue and the line that goes with it show of the issue's key.

A line loses the characters that end it, however many they are. A text that holds no `\n` and whose
last character ends no line is never touched by this (`shows_contextAt`). Keys of a catalog are such
texts, since they are trimmed lines of a file. A key that is not defined may go on over several
lines, but it begins with a character that is not blank, so that at least its first line is shown.
-/
namespace MessageKeys

open Text Call Properties

/-! ## A text on its line -/

theorem firstLine_append {text : Text} (single : '\n' ∉ text) (rest : Text) :
    firstLine (text ++ rest) = text ++ firstLine rest := by
  have plain : ∀ c ∈ text, (c != '\n') = true := by
    intro c member
    rw [bne_iff_ne]
    rintro rfl
    exact single member
  exact List.takeWhile_append_of_pos plain

/-- Line ends are taken off as far as the last character that ends no line. -/
theorem withoutLineEnd_append {last : Char} (plain : isLineEnd last = false) (front rest : Text) :
    withoutLineEnd (front ++ last :: rest) = front ++ last :: withoutLineEnd rest := by
  have reversed : (front ++ last :: rest).reverse = rest.reverse ++ last :: front.reverse := by simp
  have stops : (last :: front.reverse).dropWhile isLineEnd = last :: front.reverse := by
    simp [plain]
  rw [withoutLineEnd, reversed, List.dropWhile_append, stops]
  split
  · next gone =>
    have none : rest.reverse.dropWhile isLineEnd = [] := by simpa using gone
    simp [withoutLineEnd, none]
  · simp [withoutLineEnd]

/-- A text that the line of a place shows whole, where `before` stands in front of it: the place is
on the line that the line ends in front of the text count, in front of its column the line has what
stands between the start of the line and the text, and at its column the line goes on with the text.
-/
structure SourceContext.Shows (context : SourceContext) (before text : Text) : Prop where
  line : context.location.line = 1 + before.count '\n'
  lead : context.sourceLine.take (context.location.column - 1) = lastLine before
  text : text <+: context.sourceLine.drop (context.location.column - 1)

/-- The place of a text shows it whole, if the text is on one line and does not end among the
characters that end the line. -/
theorem shows_contextAt {text : Text} (single : '\n' ∉ text)
    (ends : ∃ front last, text = front ++ [last] ∧ isLineEnd last = false)
    (before after file : Text) :
    ((LineIndex.ofText (before ++ (text ++ after))).contextAt file (size before)).Shows before
      text := by
  obtain ⟨front, last, shape, plain⟩ := ends
  have place := lineColumn_append before (text ++ after)
  have shown : (LineIndex.ofText (before ++ (text ++ after))).lineText (before.count '\n' + 1) =
      lastLine before ++ (text ++ withoutLineEnd (firstLine after)) := by
    have kept := withoutLineEnd_append plain (lastLine before ++ front) (firstLine after)
    rw [lineText_append, firstLine_append single, shape]
    simpa using kept
  constructor
  · simp only [LineIndex.contextAt, place, Nat.add_comm]
  · simp only [LineIndex.contextAt, place, shown, Nat.add_sub_cancel, List.take_left]
  · simp only [LineIndex.contextAt, place, shown, Nat.add_sub_cancel, List.drop_left]
    exact List.prefix_append _ _

/-! ## Keys of a catalog -/

/-- The catalog of files that are given with their contents. -/
def Catalog.ofFiles (files : List (Text × Text)) : Catalog :=
  files.foldl (fun catalog (file, content) => catalog.load file content) .empty

theorem isKey_of_mem_parse {content file : Text} {entry : Entry}
    (member : entry ∈ parse content file) : IsKey entry.key := by
  have defined : (entry.key, entry.value) ∈ definitions content := by
    rw [← parse_definitions content file]
    exact List.mem_map_of_mem member
  obtain ⟨line, inside, read⟩ := List.mem_filterMap.mp defined
  exact (isKey_of_definition? (not_mem_of_mem_lines inside) read).1

/-- Loading a file adds only keys that can stand in a file. -/
theorem isKey_of_load {catalog : Catalog}
    (keys : ∀ key entry, catalog.get? key = some entry → IsKey key) {file content key : Text}
    {entry : Entry} (found : (catalog.load file content).get? key = some entry) : IsKey key := by
  rw [Catalog.load, Catalog.get?_extend, Catalog.get?_addFile, Option.or_eq_some_iff] at found
  rcases found with old | ⟨_, new⟩
  · exact keys key entry old
  · have same := List.find?_some new
    rw [← show entry.key = key by simpa using same]
    exact isKey_of_mem_parse (List.mem_of_find?_eq_some new)

theorem isKey_of_get? {files : List (Text × Text)} {key : Text} {entry : Entry}
    (found : (Catalog.ofFiles files).get? key = some entry) : IsKey key := by
  have all : ∀ key entry, (Catalog.ofFiles files).get? key = some entry → IsKey key := by
    apply List.foldlRecOn files _ (motive := fun catalog : Catalog =>
      ∀ key entry, catalog.get? key = some entry → IsKey key)
    · intro key entry none
      cases none
    · intro catalog keys file _ key entry found
      exact isKey_of_load keys found
  exact all key entry found

/-! ## Keys of issues -/

theorem isLineEnd_eq_false {c : Char} (inked : isBlank c = false) : isLineEnd c = false := by
  cases lineEnd : isLineEnd c with
  | false => rfl
  | true => rw [isBlank_of_isLineEnd lineEnd] at inked; cases inked

/-- The key of a reference begins with a character that is not blank, whatever refers to it. -/
theorem exists_first_of_mem_references {m : Matcher} {source : Text} {reference : Reference}
    (member : reference ∈ m.references source) :
    ∃ c rest, reference.key = c :: rest ∧ isBlank c = false := by
  obtain ⟨start, raw, made⟩ : ∃ start raw, Reference.ofRaw? start raw = some reference := by
    rcases List.mem_append.mp member with calls | annotations
    · obtain ⟨name, _, inside⟩ := List.mem_flatMap.mp calls
      obtain ⟨before, raw, _, _, _, made⟩ := literal_of_mem_methodReferences inside
      exact ⟨size before, raw, made⟩
    · obtain ⟨pattern, _, inside⟩ := List.mem_flatMap.mp annotations
      obtain ⟨_, _, made⟩ := List.mem_filterMap.mp inside
      obtain ⟨kept, _, made⟩ := Option.bind_eq_some_iff.mp made
      exact ⟨kept.start, kept.text, made⟩
  exact Reference.exists_first_of_ofRaw? made

/-- The part of a key in front of the first character that ends a line. -/
def keyOnLine (key : Text) : Text := key.takeWhile fun c => !isLineEnd c

theorem isLineEnd_of_mem_keyOnLine {key : Text} {c : Char} (member : c ∈ keyOnLine key) :
    isLineEnd c = false := by
  simpa using List.all_eq_true.mp List.all_takeWhile c member

/-- A key that begins with a character which is not blank has a part on its first line. -/
theorem keyOnLine_ends {key : Text} (first : ∃ c rest, key = c :: rest ∧ isBlank c = false) :
    ∃ front last, keyOnLine key = front ++ [last] ∧ isLineEnd last = false := by
  obtain ⟨c, rest, rfl, inked⟩ := first
  have filled : keyOnLine (c :: rest) ≠ [] := by simp [keyOnLine, isLineEnd_eq_false inked]
  have shape := (List.dropLast_concat_getLast filled).symm
  exact ⟨_, _, shape, isLineEnd_of_mem_keyOnLine (List.getLast_mem filled)⟩

/-- An issue of a file shows a key that stands at a byte position of the file, or the given part of
the key. -/
structure SourceFile.ShowsKey (file : SourceFile) (context : SourceContext) (key part : Text)
    (start : Nat) : Prop where
  path : context.location.file = file.path
  shown : ∃ before after, file.text = before ++ key ++ after ∧ size before = start ∧
    context.Shows before part

/-- The place of a position shows the key that stands there, as far as it goes up to a line end. -/
theorem showsKey_of_stands {file : SourceFile} {key part rest : Text} {start : Nat}
    (stands : Stands key start file.text) (parts : key = part ++ rest) (single : '\n' ∉ part)
    (ends : ∃ front last, part = front ++ [last] ∧ isLineEnd last = false) :
    file.ShowsKey ((LineIndex.ofText file.text).contextAt file.path start) key part start := by
  obtain ⟨before, after, whole, rfl⟩ := stands
  refine ⟨rfl, before, after, whole, rfl, ?_⟩
  have shape : file.text = before ++ (part ++ (rest ++ after)) := by
    rw [whole, parts]
    simp
  rw [shape]
  exact shows_contextAt single ends before (rest ++ after) file.path

/-- Every placeholder issue shows the key of a call, and every issue of an undefined key shows the
key of a reference up to the first character that ends a line: the key stands in the file at the
issue's line and column, and the characters that the line has in front of the column are those
between the start of the line and the key. -/
theorem issues_show_keys (sources : List SourceFile) (files : List (Text × Text))
    (methods : List MethodName) (m : Matcher) :
    (∀ issue ∈ placeholderIssues sources methods (.ofFiles files),
      ∃ file ∈ sources, ∃ site ∈ sites file.text methods, site.key = issue.key ∧
        file.ShowsKey issue.context issue.key issue.key site.keyStart) ∧
    ∀ issue ∈ undefinedKeyIssues sources m (.ofFiles files),
      ∃ file ∈ sources, ∃ reference ∈ m.references file.text, reference.key = issue.key ∧
        file.ShowsKey issue.context issue.key (keyOnLine issue.key) reference.start := by
  constructor
  · intro issue member
    obtain ⟨file, listed, inside⟩ := exists_file_of_mem_placeholderIssues member
    obtain ⟨site, found, entry, defined, diagnostic, broken, rfl⟩ :=
      exists_of_mem_placeholderIssues inside
    have isKey : IsKey site.key := isKey_of_get? defined
    have stands : Stands site.key site.keyStart file.text := stands_key_of_mem_sites found
    obtain ⟨front, last, shape, inked⟩ := isKey.trimmed.exists_last isKey.filled
    have start : diagnostic.span.start = site.keyStart := by
      rw [Diagnostic.span_of_mem broken, Site.keySpan]
    refine ⟨file, listed, site, found, rfl, ?_⟩
    simp only [PlaceholderIssue.ofDiagnostic, start]
    exact showsKey_of_stands stands (List.append_nil _).symm isKey.one_line
      ⟨front, last, shape, isLineEnd_eq_false inked⟩
  · intro issue member
    obtain ⟨file, listed, inside⟩ := exists_file_of_mem_undefinedKeyIssues member
    obtain ⟨reference, found, _, rfl⟩ := exists_of_mem_fileUndefinedKeyIssues inside
    have parts := (List.takeWhile_append_dropWhile (p := fun c => !isLineEnd c)
      (l := reference.key)).symm
    have single : '\n' ∉ keyOnLine reference.key :=
      fun newline => absurd (isLineEnd_of_mem_keyOnLine newline) (by decide)
    exact ⟨file, listed, reference, found, rfl, showsKey_of_stands (stands_of_mem_references found)
      parts single (keyOnLine_ends (exists_first_of_mem_references found))⟩

/-- A call whose key holds a carriage return, and one whose key goes on over a line end. -/
def lineEndFile : SourceFile :=
  ⟨"A.java".toList, "é\r\nf(log(\"a\rb\"), log( 'é\r\nk '))".toList⟩

def carriageCatalog : Catalog := .ofFiles [("m.properties".toList, "a\rb = \x7b0\x7d\n".toList)]

def carriageIssue : PlaceholderIssue where
  context := ⟨⟨lineEndFile.path, 2, 8⟩, "f(log(\"a\rb\"), log( 'é".toList⟩
  key := "a\rb".toList
  template := "\x7b0\x7d".toList
  kind := .count
  message := Diagnostic.countMessage 1 0

def lineEndIssue : UndefinedKeyIssue :=
  ⟨⟨⟨lineEndFile.path, 2, 21⟩, "f(log(\"a\rb\"), log( 'é".toList⟩, "é\r\nk".toList⟩

theorem issues_show_keys_lineEnds :
    let methods := MethodName.ofTexts ["log".toList]
    carriageIssue ∈ placeholderIssues [lineEndFile] methods carriageCatalog ∧
      (∃ start, lineEndFile.ShowsKey carriageIssue.context "a\rb".toList "a\rb".toList start) ∧
      lineEndIssue ∈ undefinedKeyIssues [lineEndFile] ⟨methods, []⟩ carriageCatalog ∧
      ∃ start, lineEndFile.ShowsKey lineEndIssue.context "é\r\nk".toList "é".toList start := by
  intro methods
  have counted : carriageIssue ∈ placeholderIssues [lineEndFile] methods carriageCatalog :=
    List.mem_mergeSort.mpr (by decide +kernel)
  have undefined : lineEndIssue ∈ undefinedKeyIssues [lineEndFile] ⟨methods, []⟩ carriageCatalog :=
    List.mem_mergeSort.mpr (by decide +kernel)
  obtain ⟨calls, references⟩ := issues_show_keys [lineEndFile]
    [("m.properties".toList, "a\rb = \x7b0\x7d\n".toList)] methods ⟨methods, []⟩
  obtain ⟨_, listed, site, _, _, shown⟩ := calls _ counted
  obtain ⟨_, also, reference, _, _, shownToo⟩ := references _ undefined
  rw [List.mem_singleton.mp listed] at shown
  rw [List.mem_singleton.mp also] at shownToo
  exact ⟨counted, ⟨_, shown⟩, undefined, _, shownToo⟩

end MessageKeys
