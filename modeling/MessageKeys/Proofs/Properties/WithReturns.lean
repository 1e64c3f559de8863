import MessageKeys.Proofs.Properties.LineEnds
import MessageKeys.Proofs.Properties.Placement

/-!
Contents whose lines end with `\r\n` instead of `\n`.

`withReturns` writes a `\r` in front of every `\n`. No line defines anything else then
(`definedLines_withReturns`), so that a content is read alike with either kind of line end. An
insertion takes the same lines from both (`existingLines_withReturns`) and joins them with the line
end of each, which is the same text but for the `\r` (`withReturns_join`, `lastEnd_withReturns`).
Hence it does not matter whether a definition is added before or after the line ends are changed.
-/
namespace MessageKeys.Properties

/-- The text with `\r\n` for every `\n`. -/
def withReturns (text : Text) : Text := text.flatMap fun c => if c = '\n' then ['\r', '\n'] else [c]

theorem withReturns_append (front back : Text) :
    withReturns (front ++ back) = withReturns front ++ withReturns back :=
  List.flatMap_append

theorem withReturns_of_not_mem {text : Text} (single : '\n' ∉ text) : withReturns text = text := by
  induction text with
  | nil => rfl
  | cons c rest ih =>
    rw [List.mem_cons, not_or] at single
    rw [withReturns, List.flatMap_cons, if_neg (Ne.symm single.1), ← withReturns, ih single.2]
    rfl

/-- The `\r` stands behind the text in front of the `\n`. -/
theorem withReturns_newline (front back : Text) :
    withReturns (front ++ '\n' :: back) =
      (withReturns front ++ ['\r']) ++ '\n' :: withReturns back := by
  rw [withReturns_append, withReturns, withReturns, List.flatMap_cons, if_pos rfl, ← withReturns,
    ← withReturns, List.append_assoc]
  rfl

/-- A line end of either kind divides the same lines. -/
theorem definedLines_withReturns (content : Text) :
    definedLines (withReturns content) = definedLines content := by
  induction content using Text.induction_on_parts '\n' with
  | last line single => rw [withReturns_of_not_mem single]
  | more line rest single ih =>
    rw [withReturns_newline, definedLines_newline, definedLines_return, ih,
      withReturns_of_not_mem single, definedLines_newline]

/-! ## The lines that an insertion takes from a content -/

theorem withReturns_ne_nil {text : Text} (filled : text ≠ []) : withReturns text ≠ [] := by
  obtain ⟨c, rest, rfl⟩ := List.exists_cons_of_ne_nil filled
  rw [withReturns, List.flatMap_cons]
  split <;> simp

theorem getLast?_withReturns (text : Text) :
    (withReturns text).getLast? = some '\n' ↔ text.getLast? = some '\n' := by
  rcases List.eq_nil_or_concat text with rfl | ⟨front, last, rfl⟩
  · rfl
  · rw [List.concat_eq_append, withReturns_append, List.getLast?_concat]
    by_cases feed : last = '\n'
    · simp [withReturns, feed]
    · simp [withReturns, feed]

/-- A content with a `\n` uses `\r\n` once its lines end so. -/
theorem lineEnd_withReturns {content : Text} (several : '\n' ∈ content) :
    lineEnd (withReturns content) = ['\r', '\n'] := by
  obtain ⟨front, back, rfl, _⟩ := List.eq_append_cons_of_mem several
  rw [lineEnd_eq, withReturns_newline, lineEnds_newline, List.getLast?_concat, if_pos rfl, if_pos]
  simp

section WithoutReturns

variable {content : Text} (plain : '\r' ∉ content)
include plain

theorem lineEnd_of_plain : lineEnd content = ['\n'] := by
  rw [lineEnd, if_neg]
  intro found
  induction content with
  | nil => cases found
  | cons c rest ih =>
    rw [List.mem_cons, not_or] at plain
    rw [Text.hasPart, Bool.or_eq_true, List.isPrefixOf_iff_prefix, List.cons_prefix_cons] at found
    rcases found with here | later
    · exact plain.1 here.1
    · exact ih plain.2 later

theorem dropTail_of_plain : Text.dropTail ['\r'] content = content :=
  dropTail_of_ne fun returned => plain (List.mem_of_getLast? returned)

/-- The `\r` in front of a `\n` does not belong to the line. -/
theorem lines_withReturns : lines (withReturns content) = lines content := by
  induction content using Text.induction_on_parts '\n' with
  | last line single => rw [withReturns_of_not_mem single]
  | more line rest single ih =>
    have returned : '\n' ∉ line ++ ['\r'] := by simpa using single
    rw [List.mem_append, List.mem_cons, not_or, not_or] at plain
    have later := ih plain.2.2
    unfold lines at later ⊢
    rw [withReturns_newline, withReturns_of_not_mem single, List.splitOn_append_cons_self,
      List.splitOn_append_cons_self, List.splitOn_eq_singleton returned,
      List.splitOn_eq_singleton single, List.map_append, List.map_append, later, List.map_singleton,
      List.map_singleton, Text.dropTail_append, dropTail_of_plain plain.1]

theorem body_withReturns : body (withReturns content) = withReturns (body content) := by
  by_cases ended : content.getLast? = some '\n'
  · obtain ⟨front, rfl⟩ := List.getLast?_eq_some_iff.mp ended
    rw [List.mem_append, not_or] at plain
    have ends : withReturns [] = [] := rfl
    rw [withReturns_newline, ends, body_ended, body_ended, Text.dropTail_append,
      dropTail_of_plain plain.1]
  · rw [body, if_neg ((getLast?_withReturns content).not.mpr ended), body, if_neg ended]

theorem existingLines_withReturns :
    existingLines (withReturns content) = existingLines content := by
  by_cases empty : content = []
  · rw [empty]
    rfl
  · have kept : '\r' ∉ body content := by
      unfold body
      split
      · rw [dropTail_of_plain fun member => plain ((List.dropLast_sublist _).subset member)]
        exact fun member => plain ((List.dropLast_sublist _).subset member)
      · exact plain
    rw [existingLines, if_neg (withReturns_ne_nil empty), existingLines, if_neg empty,
      body_withReturns plain, lines_withReturns kept]

/-- What stands behind the last line of a changed content. -/
theorem lastEnd_withReturns (several : '\n' ∈ content) (key : Text) :
    lastEnd (withReturns content) key = withReturns (lastEnd content key) := by
  unfold lastEnd
  simp only [existingLines_withReturns plain, getLast?_withReturns, lineEnd_withReturns several,
    lineEnd_of_plain plain]
  split <;> rfl

end WithoutReturns

/-- Lines that are joined with `\n` get the other line end between them. -/
theorem withReturns_join {texts : List Text} (single : ∀ text ∈ texts, '\n' ∉ text) :
    withReturns (Text.join ['\n'] texts) = Text.join ['\r', '\n'] texts := by
  fun_induction Text.join ['\n'] texts with
  | case1 => rfl
  | case2 last => exact withReturns_of_not_mem (single last List.mem_cons_self)
  | case3 first second more ih =>
    rw [withReturns_append, withReturns_append,
      withReturns_of_not_mem (single first List.mem_cons_self),
      ih fun text member => single text (List.mem_cons_of_mem _ member)]
    rfl

/-- What a content defines, and on which line, does not depend on its kind of line end, and an
insertion into lines with the other kind is the same insertion. -/
theorem insertion_keeps_convention :
    (∀ content file : Text, parse (withReturns content) file = parse content file) ∧
      ∀ content key value : Text, '\r' ∉ content → '\n' ∈ content → '\n' ∉ key → '\n' ∉ value →
        insert? (withReturns content) key value = (insert? content key value).map withReturns := by
  refine ⟨?_, ?_⟩
  · intro content file
    rw [parse_eq, parse_eq, definedLines_withReturns]
  · intro content key value plain several keySingle valueSingle
    have defined : definitions (withReturns content) = definitions content := by
      rw [definitions_eq, definitions_eq, definedLines_withReturns]
    rw [insert?_eq, insert?_eq, defined, existingLines_withReturns plain,
      lastEnd_withReturns plain several, lineEnd_withReturns several, lineEnd_of_plain plain]
    split
    · rfl
    · have single : ∀ line ∈ withLine (existingLines content) key value, '\n' ∉ line :=
        fun line member => not_mem_of_mem_withLine keySingle valueSingle member
      rw [Option.map_some, withReturns_append, withReturns_join single]

/-- Lines with a comment and a blank one, the last line without an end. -/
def endedLines : Text := "# keys\n\nb = 1\nD = 2".toList

theorem insertion_keeps_convention_unended :
    ('\r' ∉ endedLines ∧ '\n' ∈ endedLines ∧ '\n' ∉ "c".toList ∧ '\n' ∉ "x".toList) ∧
      parse (withReturns endedLines) "m.properties".toList =
        parse endedLines "m.properties".toList ∧
      insert? (withReturns endedLines) "c".toList "x".toList =
        some "# keys\r\n\r\nb = 1\r\nc=x\r\nD = 2".toList := by
  obtain ⟨same, inserts⟩ := insertion_keeps_convention
  have inserted : insert? endedLines "c".toList "x".toList =
      some "# keys\n\nb = 1\nc=x\nD = 2".toList := by
    decide +kernel
  refine ⟨by decide, same endedLines "m.properties".toList, ?_⟩
  rw [inserts endedLines _ _ (by decide) (by decide) (by decide) (by decide), inserted]
  decide

end MessageKeys.Properties
