import MessageKeys.Proofs.Report.Gutter
import MessageKeys.Proofs.Text.Splitting

/-!
Reports with and without colour.

What colour adds to output are escape sequences. `withoutSequences` takes out every such sequence,
whoever wrote it, so output can only be compared with its plain form if its own texts hold no
character that starts one (`Unescaped`). The texts of a report are fixed ones, numbers and the texts
of its issues (`unescaped_ofIssues`).
-/
namespace MessageKeys

/-- The character that starts an escape sequence. -/
def Style.escape : Char := Char.ofNat 0x1B

theorem Style.escape_eq_iff {c : Char} : escape = c ↔ c.toNat = 0x1B := by
  rw [eq_comm, ← Char.toNat_inj]
  rfl

namespace Text

open Style

/-- What stands behind the codes of an escape sequence and the `m` that ends it. -/
def behindCodes? : Text → Option Text
  | [] => none
  | c :: rest =>
    if isDigit c ∨ c = ';' then behindCodes? rest
    else if c = 'm' then some rest
    else none

/-- What stands behind the escape sequence with which a text begins. -/
def behindSequence? (text : Text) : Option Text :=
  (after? [escape, '['] text).bind behindCodes?

theorem length_behindCodes? {text rest : Text} (behind : behindCodes? text = some rest) :
    rest.length < text.length := by
  fun_induction behindCodes? text with
  | case1 => cases behind
  | case2 c text code ih => exact Nat.lt_succ_of_lt (ih behind)
  | case3 text => cases behind; exact Nat.lt_succ_self _
  | case4 c text noCode other => cases behind

theorem length_behindSequence? {text rest : Text} (behind : behindSequence? text = some rest) :
    rest.length < text.length := by
  obtain ⟨codes, starts, behind⟩ := Option.bind_eq_some_iff.mp behind
  have shorter := length_behindCodes? behind
  rw [after?_eq_some_iff.mp starts, List.length_append]
  omega

/-- A text without the escape sequences in it. -/
def withoutSequences : Text → Text
  | [] => []
  | c :: text =>
    match _ : behindSequence? (c :: text) with
    | some rest => withoutSequences rest
    | none => c :: withoutSequences text
termination_by text => text.length
decreasing_by
  · exact length_behindSequence? ‹_›
  · exact Nat.lt_succ_self _

theorem withoutSequences_of_behind {text rest : Text} (behind : behindSequence? text = some rest) :
    withoutSequences text = withoutSequences rest := by
  cases text with
  | nil => cases behind
  | cons c text =>
    rw [withoutSequences]
    split
    · next other found =>
      rw [behind] at found
      rw [Option.some.inj found]
    · next none =>
      rw [behind] at none
      cases none

/-- What comes before the first escape character stays. -/
theorem withoutSequences_append {text : Text} (free : escape ∉ text) (rest : Text) :
    withoutSequences (text ++ rest) = text ++ withoutSequences rest := by
  induction text with
  | nil => rfl
  | cons c text ih =>
    rw [List.mem_cons, not_or] at free
    have none : behindSequence? (c :: (text ++ rest)) = none := by
      simp [behindSequence?, after?, free.1]
    rw [List.cons_append, withoutSequences]
    split
    · next found =>
      rw [none] at found
      cases found
    · rw [ih free.2]
      rfl

theorem behindCodes?_append {codes : Text} (every : ∀ c ∈ codes, isDigit c ∨ c = ';')
    (rest : Text) : behindCodes? (codes ++ 'm' :: rest) = some rest := by
  induction codes with
  | nil => rfl
  | cons c codes ih =>
    rw [List.forall_mem_cons] at every
    rw [List.cons_append, behindCodes?, if_pos every.1, ih every.2]

theorem withoutSequences_escapeSequence {codes : List Text}
    (digits : ∀ code ∈ codes, ∀ c ∈ code, isDigit c = true) (rest : Text) :
    withoutSequences (escapeSequence codes ++ rest) = withoutSequences rest := by
  have every : ∀ c ∈ join [';'] codes, isDigit c ∨ c = ';' :=
    forall_mem_join (by simp) fun code member c inside => .inl (digits code member c inside)
  apply withoutSequences_of_behind
  have shape : escapeSequence codes ++ rest =
      [escape, '['] ++ (join [';'] codes ++ 'm' :: rest) := by
    simp [escapeSequence, escape]
  rw [behindSequence?, after?_eq_some_iff.mpr shape, Option.bind_some, behindCodes?_append every]

end Text

namespace Style

open Text

theorem isDigit_of_mem_codes (style : Style) :
    ∀ code ∈ style.codes, ∀ c ∈ code, isDigit c = true := by
  rw [codes, List.forall_mem_append, List.forall_mem_append]
  refine ⟨⟨?_, ?_⟩, ?_⟩
  · split <;> simp [isDigit]
  · split <;> simp [isDigit]
  · cases style.color? with
    | none => simp
    | some color => cases color <;> simp [Color.code, isDigit]

/-- A text without escape characters ends no style, so none is opened again in it. -/
theorem reopen_of_free {text : Text} (lead : Text) (free : escape ∉ text) :
    reopen lead 0 text = text := by
  induction text with
  | nil => rfl
  | cons c text ih =>
    rw [List.mem_cons, not_or] at free
    have none : reset.isPrefixOf (c :: text) = false := by
      have shape : reset = [escape, '[', '0', 'm'] := rfl
      simp [shape, List.isPrefixOf, free.1]
    rw [reopen, none, if_neg (by decide), ih free.2]

end Style

namespace Styled

open Text Style

/-- Output whose texts hold no escape character. -/
def Unescaped (output : Styled) : Prop := ∀ fragment ∈ output, escape ∉ fragment.text

section Unescaped

variable {a b output : Styled} {style : Style} {text : Text}

@[simp] theorem unescaped_nil : Unescaped [] := by simp [Unescaped]

@[simp] theorem unescaped_append : Unescaped (a ++ b) ↔ Unescaped a ∧ Unescaped b :=
  List.forall_mem_append

@[simp] theorem unescaped_plain : Unescaped (plain text) ↔ escape ∉ text := by
  simp [Unescaped, plain]

@[simp] theorem unescaped_literal (text : String) :
    Unescaped (literal text) ↔ escape ∉ text.toList := unescaped_plain

@[simp] theorem unescaped_styled : Unescaped (styled style text) ↔ escape ∉ text := by
  simp [Unescaped, styled]

@[simp] theorem unescaped_line : Unescaped (line output) ↔ Unescaped output := by
  simp [line, escape_eq_iff]

theorem withoutSequences_render_fragment {fragment : Fragment} (free : escape ∉ fragment.text)
    (rest : Text) :
    withoutSequences (fragment.render true ++ rest) =
      fragment.render false ++ withoutSequences rest := by
  obtain ⟨style?, text⟩ := fragment
  cases style? with
  | none => exact withoutSequences_append free rest
  | some style =>
    have reset : ∀ code ∈ [['0']], ∀ c ∈ code, isDigit c = true := by simp [isDigit]
    simp only [Fragment.render, if_pos, reopen_of_free _ free, List.append_assoc]
    rw [opening, withoutSequences_escapeSequence style.isDigit_of_mem_codes,
      withoutSequences_append free, Style.reset, withoutSequences_escapeSequence reset]
    simp

/-- Without its escape sequences, coloured output is plain output. -/
theorem withoutSequences_render (free : Unescaped output) :
    withoutSequences (render true output) = render false output := by
  induction output with
  | nil => rw [render_nil, render_nil, withoutSequences]
  | cons fragment more ih =>
    rw [Unescaped, List.forall_mem_cons] at free
    rw [render_cons, render_cons, withoutSequences_render_fragment free.1, ih free.2]

end Unescaped

end Styled

/-- The texts that an issue is made of. -/
def Issue.texts : Issue → List Text
  | placeholder issue =>
    [issue.context.location.file, issue.context.sourceLine, issue.key, issue.template,
      issue.message]
  | undefinedKey issue => [issue.context.location.file, issue.context.sourceLine, issue.key]
  | unreadable issue => [issue.file, issue.error]

namespace Issue

variable {issue : Issue}

theorem file_mem_texts : issue.file ∈ issue.texts := by
  cases issue <;> simp [file, texts]

theorem message_mem_texts : issue.message ∈ issue.texts := by
  cases issue <;> simp [message, texts]

theorem sourceLine_mem_texts {context : SourceContext} (placed : issue.context? = some context) :
    context.sourceLine ∈ issue.texts := by
  cases issue <;> cases placed <;> simp [texts]

end Issue

namespace Report

open Styled Text Style

section Issues

variable {width : Nat} {issue : Issue}

theorem escape_not_mem_ofNat (n : Nat) : escape ∉ ofNat n := not_mem_ofNat (by decide) n

theorem escape_not_mem_padLeft {text : Text} (free : escape ∉ text) :
    escape ∉ padLeft width text := by
  rw [padLeft, List.mem_append, not_or]
  exact ⟨fun member => absurd (List.eq_of_mem_replicate member) (by decide), free⟩

theorem unescaped_gutter {mark : String} {rest : Styled} (fixed : escape ∉ mark.toList)
    (free : Unescaped rest) : Unescaped (gutter width mark rest) := by
  simp [gutter, blue, fixed, free, escape_not_mem_padLeft, escape_eq_iff]

theorem unescaped_remark (style : Style) {title : String} {text : Text}
    (fixed : escape ∉ title.toList) (free : escape ∉ text) :
    Unescaped (remark width style title text) := by
  apply unescaped_gutter (by decide)
  simp [fixed, free, escape_eq_iff]

theorem unescaped_sourceLines (severity : Severity) {context : SourceContext}
    (free : escape ∉ context.sourceLine) : Unescaped (sourceLines width severity context) := by
  have number := @escape_not_mem_padLeft width _ (escape_not_mem_ofNat context.location.line)
  have caret : Unescaped (plain (List.replicate
      (Text.width (context.sourceLine.take (context.location.column - 1)) + 1) ' ') ++
      styled (.colored (severityColor severity)) ['^']) := by
    simp [escape_eq_iff]
  have above : Unescaped (gutter width "|" []) := unescaped_gutter (by decide) unescaped_nil
  have below := @unescaped_gutter width "|" _ (by decide) caret
  simp [sourceLines, blue, number, free, above, below, escape_eq_iff]

theorem escape_not_mem_place (free : escape ∉ issue.file) : escape ∉ place issue := by
  unfold place
  split
  · have each : ∀ text ∈ [issue.file, ofNat issue.line, ofNat issue.column],
        ∀ c ∈ text, c ≠ escape := by
      simp only [List.forall_mem_cons]
      exact ⟨List.forall_mem_ne'.mpr free, List.forall_mem_ne'.mpr (escape_not_mem_ofNat _),
        List.forall_mem_ne'.mpr (escape_not_mem_ofNat _), by simp⟩
    have mark : ∀ c ∈ [':'], c ≠ escape := by simp [eq_comm, escape_eq_iff]
    exact List.forall_mem_ne'.mp (forall_mem_join mark each)
  · exact free

theorem unescaped_issueLines (free : ∀ text ∈ issue.texts, escape ∉ text) :
    Unescaped (issueLines width issue) := by
  unfold issueLines
  refine unescaped_append.mpr ⟨?_, by simp⟩
  simp only [unescaped_append, unescaped_line]
  refine ⟨⟨⟨⟨?heading, ?place⟩, ?source⟩, ?note⟩, ?hint⟩
  case heading =>
    have severity : escape ∉ issue.severity.name := by cases issue.severity <;> decide
    have rule : escape ∉ issue.rule.name := by cases issue.rule <;> decide
    simp [severity, rule, free _ Issue.message_mem_texts, escape_eq_iff]
  case place =>
    simp [blue, escape_not_mem_place (free _ Issue.file_mem_texts), escape_eq_iff]
  case source =>
    split
    · next context placed =>
      exact unescaped_sourceLines _ (free _ (Issue.sourceLine_mem_texts placed))
    · exact unescaped_nil
  case note =>
    cases issue with
    | placeholder issue =>
      have key : escape ∉ issue.key := free _ (by simp [Issue.texts])
      have template : escape ∉ issue.template := free _ (by simp [Issue.texts])
      exact unescaped_remark _ (by decide) (by simp [key, template, escape_eq_iff])
    | _ => exact unescaped_nil
  case hint =>
    cases issue with
    | undefinedKey issue =>
      have key : escape ∉ issue.key := free _ (by simp [Issue.texts])
      exact unescaped_remark _ (by decide) (by simp [key, escape_eq_iff])
    | _ => exact unescaped_nil

theorem unescaped_summary (issues : List Issue) : Unescaped (summary issues) := by
  have noun (count : Nat) {one many : String} (first : escape ∉ one.toList)
      (second : escape ∉ many.toList) : escape ∉ plural count one many := by
    unfold plural
    split
    · exact first
    · exact second
  have mark : escape ∉ failureMark := by decide
  simp [summary, mark, noun, escape_not_mem_ofNat, escape_eq_iff]

theorem unescaped_ofIssues {issues : List Issue}
    (free : ∀ issue ∈ issues, ∀ text ∈ issue.texts, escape ∉ text) :
    Unescaped (ofIssues issues) := by
  unfold ofIssues
  split
  · exact unescaped_nil
  · refine unescaped_append.mpr ⟨?_, unescaped_summary issues⟩
    intro fragment member
    obtain ⟨issue, listed, inside⟩ := List.mem_flatMap.mp member
    exact unescaped_issueLines (free issue listed) fragment inside

/-- Colour adds nothing but escape sequences to the report of issues without escape characters. In
the plain report the bars of all issues in source text, three of each, stand in one column: behind
as many characters as the largest line number has, and a blank. -/
theorem color_adds_sequences_only (issues : List Issue)
    (free : ∀ issue ∈ issues, ∀ text ∈ issue.texts, escape ∉ text) :
    withoutSequences (render true (ofIssues issues)) = render false (ofIssues issues) ∧
      (ofIssues issues).count bar = 3 * (issues.filterMap Issue.context?).length ∧
      ∀ largest, largestLine? issues = some largest →
        ∀ before after, ofIssues issues = before ++ bar :: after →
          FillsGutter (ofNat largest).length (lastLine (render false before)) := by
  refine ⟨withoutSequences_render (unescaped_ofIssues free), count_bar_ofIssues issues, ?_⟩
  intro largest found
  exact (alignsBars_ofIssues found).aligned

/-- Line numbers of one and of three digits, and an issue about a whole file. -/
theorem color_adds_sequences_only_mixed :
    let issues := [Issue.unreadable ⟨"c.properties".toList, "not UTF-8".toList⟩,
      .undefinedKey ⟨⟨⟨"A.java".toList, 7, 5⟩, "  get(\"x\");".toList⟩, "x".toList⟩,
      .undefinedKey ⟨⟨⟨"B.java".toList, 120, 1⟩, "get(\"y\");".toList⟩, "y".toList⟩]
    withoutSequences (render true (ofIssues issues)) = render false (ofIssues issues) ∧
      (ofIssues issues).count bar = 6 ∧
      ∀ before after, ofIssues issues = before ++ bar :: after →
        FillsGutter 3 (lastLine (render false before)) := by
  intro issues
  have free : ∀ issue ∈ issues, ∀ text ∈ issue.texts, escape ∉ text := by decide
  obtain ⟨stripped, bars, aligned⟩ := color_adds_sequences_only issues free
  exact ⟨stripped, bars, aligned 120 rfl⟩

end Issues

end Report

end MessageKeys
