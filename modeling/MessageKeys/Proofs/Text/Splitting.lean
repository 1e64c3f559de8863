import MessageKeys.Text.Basic

/-!
Splitting a text at a mark and joining the parts again.
-/
namespace MessageKeys.Text

/-- Induction over the parts of a text: the last one, and a part in front of others. -/
@[elab_as_elim]
theorem induction_on_parts (mark : Char) {motive : Text → Prop} (text : Text)
    (last : ∀ part, mark ∉ part → motive part)
    (more : ∀ part rest, mark ∉ part → motive rest → motive (part ++ mark :: rest)) :
    motive text := by
  by_cases several : mark ∈ text
  · obtain ⟨part, rest, whole, single⟩ := List.eq_append_cons_of_mem several
    rw [whole]
    exact more part rest single (induction_on_parts mark rest last more)
  · exact last text several
termination_by text.length
decreasing_by
  rw [whole, List.length_append, List.length_cons]
  omega

/-- The parts between marks hold no mark. -/
theorem not_mem_of_mem_splitOn {mark : Char} {text part : Text}
    (member : part ∈ List.splitOn mark text) : mark ∉ part := by
  induction text using induction_on_parts mark with
  | last text single =>
    rw [List.splitOn_eq_singleton single, List.mem_singleton] at member
    rwa [member]
  | more first rest single ih =>
    rw [List.splitOn_append_cons_self, List.splitOn_eq_singleton single, List.singleton_append,
      List.mem_cons] at member
    rcases member with rfl | inRest
    · exact single
    · exact ih inRest

/-- What stands in front of a text and holds no mark belongs to its first part. -/
theorem splitOn_append_of_not_mem {mark : Char} {front : Text} (absent : mark ∉ front)
    (rest : Text) :
    List.splitOn mark (front ++ rest) = (List.splitOn mark rest).modifyHead (front ++ ·) := by
  induction front with
  | nil =>
    rw [List.nil_append]
    cases List.splitOn mark rest <;> rfl
  | cons c more ih =>
    rw [List.mem_cons, not_or] at absent
    rw [List.cons_append, List.splitOn, List.splitOnP_cons_eq_if_modifyHead,
      if_neg (by simp [Ne.symm absent.1]), ← List.splitOn, ih absent.2, List.modifyHead_modifyHead]
    rfl

/-- A text begins with its first part. -/
theorem splitOn_eq_cons (mark : Char) (text : Text) :
    ∃ first more, List.splitOn mark text = first :: more ∧ first <+: text := by
  by_cases several : mark ∈ text
  · obtain ⟨first, rest, whole, single⟩ := List.eq_append_cons_of_mem several
    refine ⟨first, List.splitOn mark rest, ?_, by simp [whole]⟩
    rw [whole, List.splitOn_append_cons_self, List.splitOn_eq_singleton single]
    rfl
  · exact ⟨text, [], List.splitOn_eq_singleton several, List.prefix_refl text⟩

theorem join_eq_intercalate (separator : Text) (texts : List Text) :
    join separator texts = separator.intercalate texts := by
  fun_induction join separator texts with
  | case1 => rfl
  | case2 last => rw [List.intercalate_singleton]
  | case3 first second more ih => rw [ih, List.intercalate_cons_cons]

/-- Joining two lists of texts one after the other. -/
theorem join_append (separator : Text) {front back : List Text} (some : front ≠ [])
    (other : back ≠ []) :
    join separator (front ++ back) = join separator front ++ separator ++ join separator back := by
  fun_induction join separator front with
  | case1 => exact absurd rfl some
  | case2 last =>
    obtain ⟨first, more, rfl⟩ := List.exists_cons_of_ne_nil other
    rfl
  | case3 first second more ih =>
    have rest := ih (by simp)
    rw [List.cons_append] at rest
    rw [List.cons_append, List.cons_append, join, rest]
    simp

/-- Texts in front of others have a separator behind each of them. -/
theorem join_append_flatMap (separator : Text) (front : List Text) {back : List Text}
    (other : back ≠ []) :
    join separator (front ++ back) = front.flatMap (· ++ separator) ++ join separator back := by
  induction front with
  | nil => rfl
  | cons first more ih =>
    have single : [first] ++ (more ++ back) = first :: more ++ back := rfl
    rw [← single, join_append separator (by simp) (by simp [other]), ih, List.flatMap_cons, join]
    simp only [List.append_assoc]

/-- Texts behind a first one have a separator in front of each of them. -/
theorem join_cons_flatMap (separator first : Text) (more : List Text) :
    join separator (first :: more) = first ++ more.flatMap (separator ++ ·) := by
  induction more generalizing first with
  | nil => simp [join]
  | cons second others ih => rw [join, ih, List.flatMap_cons, List.append_assoc, List.append_assoc]

theorem join_append_separator (separator : Text) {texts : List Text} (some : texts ≠ []) :
    join separator texts ++ separator = texts.flatMap (· ++ separator) := by
  have closed := join_append separator some (List.cons_ne_nil ([] : Text) [])
  have parts := join_append_flatMap separator texts (List.cons_ne_nil ([] : Text) [])
  rw [closed, join, List.append_nil, List.append_nil] at parts
  exact parts

theorem join_isSuffix (separator : Text) (front back : List Text) :
    join separator back <:+ join separator (front ++ back) := by
  by_cases none : front = []
  · rw [none]
    exact List.suffix_refl _
  by_cases last : back = []
  · rw [last]
    exact List.nil_suffix
  rw [join_append separator none last]
  exact List.suffix_append _ _

theorem forall_mem_join {holds : Char → Prop} {separator : Text} {texts : List Text}
    (between : ∀ c ∈ separator, holds c) (each : ∀ text ∈ texts, ∀ c ∈ text, holds c) :
    ∀ c ∈ join separator texts, holds c := by
  intro c member
  fun_induction join separator texts with
  | case1 => cases member
  | case2 last => exact each last (by simp) c member
  | case3 first second more ih =>
    rcases List.mem_append.mp member with front | later
    · rcases List.mem_append.mp front with here | mark
      · exact each first (by simp) c here
      · exact between c mark
    · exact ih (fun text inside => each text (List.mem_cons_of_mem _ inside)) later

/-- A character that is not in the separator is counted in the texts. -/
theorem count_join {c : Char} {separator : Text} (absent : c ∉ separator) (texts : List Text) :
    (join separator texts).count c = texts.flatten.count c := by
  fun_induction join separator texts with
  | case1 => rfl
  | case2 last => rw [List.flatten_cons, List.flatten_nil, List.append_nil]
  | case3 first second more ih =>
    simp only [List.count_append, List.count_eq_zero.mpr absent, ih, List.flatten_cons,
      Nat.add_zero]

/-- The beginnings of a text are what is taken of it. -/
theorem forall_prefix_iff {holds : Text → Prop} {text : Text} :
    (∀ front, front <+: text → holds front) ↔
      ∀ length ≤ text.length, holds (text.take length) := by
  constructor
  · intro all length _
    exact all _ (List.take_prefix length text)
  · intro all front begins
    rw [List.prefix_iff_eq_take.mp begins]
    exact all _ begins.length_le

instance {holds : Text → Prop} [DecidablePred holds] (text : Text) :
    Decidable (∀ front, front <+: text → holds front) :=
  decidable_of_iff _ forall_prefix_iff.symm

end MessageKeys.Text
