import Mathlib.Data.List.Basic
import MessageKeys.Proofs.Source.LineColumn
import MessageKeys.Proofs.Source.Position
import MessageKeys.Report.Layout

/-!
The gutter of a report.

A bar divides each line of source, and the lines above and below it, from the gutter. Output that
ends its last line can be put behind other such output without a change of columns
(`AlignsBars.append`). So it is enough that each line has its bar behind as many blanks and digits as
the largest line number has, and one blank: `alignsBars_ofIssues`. The lines of an issue hold three
bars if it has a place in source text, else none (`count_bar_ofIssues`).
-/
namespace MessageKeys

namespace Text

theorem length_ofNat_mono {n largest : Nat} (bound : n ≤ largest) :
    (ofNat n).length ≤ (ofNat largest).length := by
  have positive : 0 < (ofNat largest).length := Nat.length_toDigits_pos
  have below := (Nat.length_toDigits_le_iff (by decide) positive).mp (Nat.le_refl _)
  exact (Nat.length_toDigits_le_iff (by decide) positive).mpr (Nat.lt_of_le_of_lt bound below)

theorem length_padLeft {width : Nat} {text : Text} (fits : text.length ≤ width) :
    (padLeft width text).length = width := by
  rw [padLeft, List.length_append, List.length_replicate]
  omega

theorem lastLine_newline (text : Text) : lastLine (text ++ ['\n']) = [] := by
  simp [lastLine]

/-- Behind a line end, a text has the last line that it has on its own. -/
theorem lastLine_append_of_ended {a : Text} (ended : lastLine a = []) (b : Text) :
    lastLine (a ++ b) = lastLine b := by
  have parts := beforeLastLine_append_lastLine b
  rw [← parts, ← List.append_assoc, lastLine_append (not_mem_lastLine b),
    lastLine_append (not_mem_lastLine b)]
  rcases beforeLastLine_cases b with empty | ⟨front, ends⟩
  · rw [empty, List.append_nil, ended]
    rfl
  · rw [ends, ← List.append_assoc, lastLine_newline, lastLine_newline]

end Text

namespace Styled

@[simp] theorem render_nil (colors : Bool) : render colors [] = [] := rfl

@[simp] theorem render_cons (colors : Bool) (fragment : Fragment) (more : Styled) :
    render colors (fragment :: more) = fragment.render colors ++ render colors more :=
  List.flatMap_cons

theorem render_append (colors : Bool) (a b : Styled) :
    render colors (a ++ b) = render colors a ++ render colors b :=
  List.flatMap_append

end Styled

namespace Report

open Styled Text

/-- The bar between a gutter and what stands behind it. -/
def bar : Fragment := ⟨some (.colored .blue), ['|']⟩

/-- As many blanks and digits as a gutter has columns, and one more. -/
def FillsGutter (width : Nat) (lead : Text) : Prop :=
  lead.length = width + 1 ∧ ∀ c ∈ lead, c = ' ' ∨ isDigit c = true

/-- Output that ends its last line and that has nothing but a gutter in front of each bar. -/
structure AlignsBars (width : Nat) (output : Styled) : Prop where
  ended : lastLine (render false output) = []
  aligned : ∀ before after, output = before ++ bar :: after →
    FillsGutter width (lastLine (render false before))

/-- The number of a line, if it is the largest of those that issues show. -/
def largestLine? (issues : List Issue) : Option Nat :=
  ((issues.filterMap Issue.context?).map (·.location.line)).max?

section Lines

variable {width : Nat} {lead rest output : Styled}

theorem AlignsBars.nil : AlignsBars width [] := by
  refine ⟨rfl, ?_⟩
  intro before after shape
  simp at shape

theorem AlignsBars.append {a b : Styled} (first : AlignsBars width a)
    (second : AlignsBars width b) : AlignsBars width (a ++ b) := by
  constructor
  · rw [render_append, lastLine_append_of_ended first.ended, second.ended]
  · intro before after shape
    rcases List.append_eq_append_iff.mp shape with ⟨more, rfl, inner⟩ | ⟨more, parts, inner⟩
    · rw [render_append, lastLine_append_of_ended first.ended]
      exact second.aligned more after inner
    · cases more with
      | nil =>
        rw [List.append_nil] at parts
        rw [← parts, ← List.append_nil a, render_append, lastLine_append_of_ended first.ended]
        exact second.aligned [] after inner.symm
      | cons here others =>
        obtain ⟨rfl, _⟩ := List.cons.inj inner
        exact first.aligned before others parts

theorem lastLine_line (output : Styled) : lastLine (render false (line output)) = [] := by
  rw [line, render_append]
  exact lastLine_newline _

theorem alignsBars_line (plain : bar ∉ output) : AlignsBars width (line output) := by
  refine ⟨lastLine_line output, ?_⟩
  intro before after shape
  have member : bar ∈ line output := by simp [shape]
  exact absurd member (by simpa [line, Styled.plain, bar] using plain)

/-- A line with one bar, which stands behind the gutter. -/
theorem alignsBars_barLine (noBar : bar ∉ lead) (noOther : bar ∉ rest)
    (fills : FillsGutter width (render false lead)) :
    AlignsBars width (line (lead ++ bar :: rest)) := by
  refine ⟨lastLine_line _, ?_⟩
  intro before after shape
  have behind : bar ∉ rest ++ Styled.plain ['\n'] := by
    simpa [Styled.plain, bar] using noOther
  have single : '\n' ∉ render false lead := by
    intro member
    rcases fills.2 '\n' member with same | digit
    · cases same
    · cases digit
  rw [line, List.append_assoc, List.cons_append,
    List.append_cons_inj_of_notMem noBar behind] at shape
  rw [← shape.1, ← List.nil_append (render false lead), lastLine_append single]
  exact fills

theorem fillsGutter_padLeft {text : Text} (fits : text.length ≤ width)
    (digits : ∀ c ∈ text, isDigit c = true) : FillsGutter width (padLeft width text ++ [' ']) := by
  refine ⟨by rw [List.length_append, length_padLeft fits]; rfl, ?_⟩
  simp only [padLeft, List.forall_mem_append]
  refine ⟨⟨?_, fun c member => .inr (digits c member)⟩, by simp⟩
  intro c member
  exact .inl (List.eq_of_mem_replicate member)

/-- The lines around a line of source have blanks for a gutter. -/
theorem alignsBars_gutter (noBar : bar ∉ rest) : AlignsBars width (gutter width "|" rest) := by
  have fills := @fillsGutter_padLeft width [] (Nat.zero_le _) (by simp)
  have free : bar ∉ plain (padLeft width []) ++ literal " " := by
    simp [Styled.plain, literal, bar]
  exact alignsBars_barLine free noBar (by simpa [Styled.plain, literal, Fragment.render] using fills)

/-- Other lines with a gutter have no bar. -/
theorem alignsBars_remark (style : Style) (title : String) (text : Text)
    (other : title.toList ≠ ['|']) : AlignsBars width (remark width style title text) := by
  apply alignsBars_line
  simp [Styled.plain, literal, styled, blue, bar, other.symm]

theorem padLeft_ofNat_ne (width n : Nat) : padLeft width (ofNat n) ≠ ['|'] := by
  intro same
  have member : '|' ∈ padLeft width (ofNat n) := by simp [same]
  rcases List.mem_append.mp member with blank | digit
  · exact absurd (List.eq_of_mem_replicate blank) (by decide)
  · exact not_mem_ofNat (by decide) n digit

/-- The line of source has its number in the gutter. -/
theorem alignsBars_sourceLines (severity : Severity) {context : SourceContext}
    (fits : (ofNat context.location.line).length ≤ width) :
    AlignsBars width (sourceLines width severity context) := by
  have fills := fillsGutter_padLeft fits fun c member => isDigit_of_mem_ofNat member
  have free : bar ∉ styled (.colored .blue) (padLeft width (ofNat context.location.line)) ++
      literal " " := by
    have number := (padLeft_ofNat_ne width context.location.line).symm
    simpa [styled, literal, Styled.plain, bar] using number
  have middle := @alignsBars_barLine width _ (literal " " ++ plain context.sourceLine) free
    (by simp [Styled.plain, literal, bar])
    (by simpa [styled, literal, Styled.plain, Fragment.render] using fills)
  refine (alignsBars_gutter (by simp)).append ?_ |>.append (alignsBars_gutter ?_)
  · simpa [blue, bar, styled] using middle
  · cases severity <;> simp [Styled.plain, styled, bar]

end Lines

section Issues

variable {width : Nat} {issue : Issue} {issues : List Issue}

theorem alignsBars_issueLines
    (fits : ∀ context, issue.context? = some context →
      (ofNat context.location.line).length ≤ width) :
    AlignsBars width (issueLines width issue) := by
  unfold issueLines
  refine ((((AlignsBars.append ?_ ?_).append ?_).append ?_).append ?_).append ?_
  · apply alignsBars_line
    simp [Styled.plain, literal, styled, bar, Style.boldColored, Style.colored]
  · apply alignsBars_line
    simp [Styled.plain, literal, styled, blue, bar]
  · split
    · next context found => exact alignsBars_sourceLines _ (fits context found)
    · exact .nil
  · split
    · exact alignsBars_remark _ _ _ (by decide)
    · exact .nil
  · split
    · exact alignsBars_remark _ _ _ (by decide)
    · exact .nil
  · exact alignsBars_line (by simp)

theorem alignsBars_summary (issues : List Issue) : AlignsBars width (summary issues) := by
  apply alignsBars_line
  simp [Styled.plain, literal, styled, bar, Style.colored]

theorem gutterWidth_eq {largest : Nat} (found : largestLine? issues = some largest) :
    gutterWidth issues = (ofNat largest).length := by
  unfold largestLine? at found
  unfold gutterWidth
  split
  · next none =>
    rw [none] at found
    cases found
  · next first more shape =>
    rw [shape, List.max?_cons'] at found
    rw [Option.some.inj found]

theorem alignsBars_flatMap {lines : Issue → Styled}
    (each : ∀ issue ∈ issues, AlignsBars width (lines issue)) :
    AlignsBars width (issues.flatMap lines) := by
  induction issues with
  | nil => exact .nil
  | cons first more ih =>
    rw [List.forall_mem_cons] at each
    rw [List.flatMap_cons]
    exact each.1.append (ih each.2)

/-- The gutter is as wide as the largest line number, which all others fit. -/
theorem alignsBars_ofIssues {largest : Nat} (found : largestLine? issues = some largest) :
    AlignsBars (ofNat largest).length (ofIssues issues) := by
  unfold ofIssues
  split
  · exact .nil
  · rw [gutterWidth_eq found]
    refine (alignsBars_flatMap ?_).append (alignsBars_summary issues)
    intro issue member
    apply alignsBars_issueLines
    intro context placed
    apply length_ofNat_mono
    refine (List.max?_eq_some_iff.mp found).2 _ (List.mem_map_of_mem ?_)
    exact List.mem_filterMap.mpr ⟨issue, member, placed⟩

theorem count_bar_sourceLines (severity : Severity) (context : SourceContext) :
    (sourceLines width severity context).count bar = 3 := by
  have number := padLeft_ofNat_ne width context.location.line
  simp [sourceLines, gutter, line, Styled.plain, literal, blue, styled, bar, number]

theorem count_bar_line (plain : bar ∉ output) : (line output).count bar = 0 := by
  rw [List.count_eq_zero]
  simpa [line, Styled.plain, bar] using plain

theorem count_bar_remark (style : Style) (title : String) (text : Text)
    (other : title.toList ≠ ['|']) : (remark width style title text).count bar = 0 := by
  apply count_bar_line
  simp [Styled.plain, literal, styled, blue, bar, other.symm]

theorem count_bar_issueLines (issue : Issue) :
    (issueLines width issue).count bar = 3 * issue.context?.toList.length := by
  have note (details : Text) := @count_bar_remark width .justBold "note:" details (by decide)
  have hint (text : Text) := @count_bar_remark width (.boldColored .cyan) "hint:" text (by decide)
  unfold issueLines
  simp only [List.count_append]
  rw [count_bar_line, count_bar_line, @count_bar_line []]
  · cases issue with
    | placeholder issue =>
      simp [Issue.context?, Issue.details?, Issue.hint?, count_bar_sourceLines, note]
    | undefinedKey issue =>
      simp [Issue.context?, Issue.details?, Issue.hint?, count_bar_sourceLines, hint]
    | unreadable issue => rfl
  · simp
  · simp [Styled.plain, literal, styled, blue, bar]
  · simp [Styled.plain, literal, styled, bar, Style.boldColored, Style.colored]

/-- The lines with a bar are three for each issue in source text. -/
theorem count_bar_ofIssues (issues : List Issue) :
    (ofIssues issues).count bar = 3 * (issues.filterMap Issue.context?).length := by
  have lines (width : Nat) : (issues.flatMap (issueLines width)).count bar =
      3 * (issues.filterMap Issue.context?).length := by
    induction issues with
    | nil => rfl
    | cons first more ih =>
      rw [List.flatMap_cons, List.count_append, count_bar_issueLines, ih]
      cases placed : first.context? with
      | none => simp [placed]
      | some context => simp [placed, Nat.mul_add, Nat.add_comm]
  unfold ofIssues
  split
  · next none => simp [none]
  · rw [List.count_append, lines, summary, count_bar_line]
    · rfl
    · simp [Styled.plain, literal, styled, bar, Style.colored]

end Issues

end Report

end MessageKeys
