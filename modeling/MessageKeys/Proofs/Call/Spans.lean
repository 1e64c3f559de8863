import MessageKeys.Proofs.Call.KeyPosition
import MessageKeys.Proofs.Diagnostic
import MessageKeys.Proofs.Text.Trimming

/-!
The positions that call sites and diagnostics give.

Positions are taken over three times: from the source to the argument list, from the list to its
trimmed pieces, and from the first piece to the key without its quotes. At each of these steps the
inner text stands in the outer one at the position that is added (`stands_of_mem_pieces`,
`stands_unquote`), so that every position of a call site cuts from the source what the site says
stands there (`Site.StandsIn`). Since a cut succeeds only between characters, all of them lie there.
-/
namespace MessageKeys.Call

open Text

/-! ## Pieces of an argument list -/

/-- What trimming leaves of a segment stands wherever the segment does. -/
theorem stands_ofSegment {segment text : Text} {start : Nat} (here : Stands segment start text) :
    Stands (Piece.ofSegment start segment).text (Piece.ofSegment start segment).offset text :=
  (stands_trim segment).trans here

/-- Pieces stand in the list that they were cut from. -/
theorem stands_of_mem_pieces {start : Nat} {texts : List Text} {piece : Piece}
    (member : piece ∈ pieces start texts) {front : Text} (place : size front = start) :
    Stands piece.text piece.offset (front ++ Text.join [','] texts) := by
  fun_induction pieces start texts generalizing front with
  | case1 => cases member
  | case2 start last blank => cases member
  | case3 start last filled =>
    rw [List.mem_singleton.mp member]
    exact stands_ofSegment ⟨front, [], by simp [Text.join], place⟩
  | case4 start segment more several ih =>
    obtain ⟨second, others, rfl⟩ := List.exists_cons_of_ne_nil (by simpa using several)
    rcases List.mem_cons.mp member with rfl | later
    · exact stands_ofSegment ⟨front, [','] ++ Text.join [','] (second :: others),
        by simp [Text.join], place⟩
    · have comma : size [','] = 1 := rfl
      have further : size (front ++ segment ++ [',']) = start + size segment + 1 := by
        rw [size_append, size_append, place, comma]
      simpa [Text.join] using ih later further

/-- A piece ends within its segment. -/
theorem stop_ofSegment_le (start : Nat) (segment : Text) :
    (Piece.ofSegment start segment).stop ≤ start + size segment := by
  have bound := (stands_trim segment).stop_le
  simp only [Piece.stop, Piece.ofSegment]
  omega

theorem le_offset_of_mem_pieces {start : Nat} {texts : List Text} {piece : Piece}
    (member : piece ∈ pieces start texts) : start ≤ piece.offset := by
  fun_induction pieces start texts with
  | case1 => cases member
  | case2 start last blank => cases member
  | case3 start last filled =>
    rw [List.mem_singleton.mp member]
    exact Nat.le_add_right _ _
  | case4 start segment more several ih =>
    rcases List.mem_cons.mp member with rfl | later
    · exact Nat.le_add_right _ _
    · have behind := ih later
      omega

/-- Pieces follow one another, with a comma between each two. -/
theorem pairwise_pieces (start : Nat) (texts : List Text) :
    (pieces start texts).Pairwise fun a b => a.stop < b.offset := by
  fun_induction pieces start texts with
  | case1 => exact .nil
  | case2 start last blank => exact .nil
  | case3 start last filled => exact List.pairwise_singleton _ _
  | case4 start segment more several ih =>
    refine List.pairwise_cons.mpr ⟨?_, ih⟩
    intro piece later
    have ends := stop_ofSegment_le start segment
    have behind := le_offset_of_mem_pieces later
    omega

/-- Arguments stand in their list, one behind the other. -/
theorem stands_of_mem_expressions {list : Text} {argument : Expression}
    (member : argument ∈ expressions list) : Stands argument.text argument.offset list := by
  obtain ⟨piece, inside, rfl⟩ := List.mem_map.mp member
  have stands := @stands_of_mem_pieces _ _ _ inside [] rfl
  rwa [List.nil_append, join_segments] at stands

theorem pairwise_expressions (list : Text) :
    (expressions list).Pairwise fun a b => a.stop < b.offset :=
  (pairwise_pieces 0 _).map _ fun _ _ before => before

/-! ## The key -/

/-- A key stands in its argument, behind the quote if there is one. -/
theorem stands_unquote (text : Text) : Stands (unquote text).1 (unquote text).2 text := by
  unfold unquote
  split
  · next rest =>
    have quote : size ['"'] = 1 := rfl
    rcases dropTail_or ['"'] rest with same | shorter
    · exact ⟨['"'], [], by simp [same], quote⟩
    · exact ⟨['"'], ['"'], by simp [← shorter], quote⟩
  · rcases dropTail_or ['"'] text with same | shorter
    · exact ⟨[], [], by simp [same], rfl⟩
    · exact ⟨[], ['"'], by simp [← shorter], rfl⟩

/-! ## Call sites -/

/-- Where an argument of a call stands in the source. -/
def Site.argumentSpan (site : Site) (argument : Expression) : Span :=
  ⟨site.list.offset + argument.offset, site.list.offset + argument.stop⟩

/-- The positions of a call site point at what the site says. -/
structure Site.StandsIn (source : Text) (site : Site) : Prop where
  matched : slice? source site.invocation.start
    (site.invocation.start + size site.invocation.matched) = some site.invocation.matched
  /-- The call ends with the parenthesis just in front of the list. -/
  opening : ∃ written, site.invocation.matched = written ++ ['('] ∧
    site.invocation.start + size written + 1 = site.list.offset
  list : slice? source site.list.offset (site.list.offset + size site.list.text) =
    some site.list.text
  key : slice? source site.keySpan.start site.keySpan.stop = some site.key
  key_inside : site.list.offset ≤ site.keySpan.start ∧
    site.keySpan.stop ≤ site.list.offset + size site.list.text
  arguments : ∀ argument ∈ site.arguments,
    slice? source (site.argumentSpan argument).start (site.argumentSpan argument).stop =
      some argument.text
  /-- The arguments come behind the key, each behind the one before it. -/
  ordered : (site.keySpan :: site.arguments.map site.argumentSpan).Pairwise fun before after =>
    before.stop < after.start

/-- The call of a site stands in the source, and its argument list just behind it. -/
theorem stands_list_of_mem_sites {source : Text} {methods : List MethodName} {site : Site}
    (member : site ∈ sites source methods) :
    Stands site.invocation.matched site.invocation.start source ∧
      (∃ written, site.invocation.matched = written ++ ['('] ∧
        site.invocation.start + size written + 1 = site.list.offset) ∧
      Stands site.list.text site.list.offset source := by
  obtain ⟨_, _, called, made⟩ := exists_of_mem_sites member
  obtain ⟨front, written, rest, whole, place, ends⟩ := parts_of_mem_invocations called
  have opening : source = (front ++ written) ++ '(' :: rest := by
    rw [whole, List.append_assoc]
  obtain ⟨list, balanced, extracted, behind, shape⟩ := extract?_eq opening
  have openAt : site.invocation.openAt = size (front ++ written) := by
    rw [openAt_of_matched ends, size_append, place]
  have listed : site.list = ⟨list, size (front ++ written) + 1, balanced⟩ := by
    have given := (ofInvocation?_eq_some made).2.1
    rwa [openAt, extracted, Option.some.injEq, eq_comm] at given
  rw [listed]
  refine ⟨⟨front, rest, ?_, place⟩, ⟨written, ends, ?_⟩, front ++ written ++ ['('], behind, ?_, ?_⟩
  · rw [ends, whole]
    simp
  · rw [← place, size_append]
  · rw [opening, ← shape]
    simp
  · rw [size_append]
    rfl

/-- The first argument of a call stands in the source, and the key is what it holds. -/
theorem stands_first_of_mem_sites {source : Text} {methods : List MethodName} {site : Site}
    (member : site ∈ sites source methods) :
    ∃ first, expressions site.list.text = first :: site.arguments ∧
      Stands first.text (site.list.offset + first.offset) source ∧
      site.key = (unquote first.text).1 ∧
      site.keyStart = site.list.offset + first.offset + (unquote first.text).2 := by
  obtain ⟨_, _, list⟩ := stands_list_of_mem_sites member
  obtain ⟨_, _, _, made⟩ := exists_of_mem_sites member
  obtain ⟨_, _, first, read, key, position⟩ := ofInvocation?_eq_some made
  have inList : Stands first.text first.offset site.list.text :=
    stands_of_mem_expressions (by rw [read]; exact List.mem_cons_self)
  exact ⟨first, read, inList.trans list, key, position⟩

/-- The key of a call stands in the source. -/
theorem stands_key_of_mem_sites {source : Text} {methods : List MethodName} {site : Site}
    (member : site ∈ sites source methods) : Stands site.key site.keyStart source := by
  obtain ⟨first, _, stands, key, position⟩ := stands_first_of_mem_sites member
  rw [key, position]
  exact (stands_unquote first.text).trans stands

theorem standsIn_of_mem_sites {source : Text} {methods : List MethodName} {site : Site}
    (member : site ∈ sites source methods) : site.StandsIn source := by
  obtain ⟨call, opening, list⟩ := stands_list_of_mem_sites member
  obtain ⟨_, _, _, made⟩ := exists_of_mem_sites member
  obtain ⟨_, _, first, read, key, position⟩ := ofInvocation?_eq_some made
  have ordered := pairwise_expressions site.list.text
  have inList : ∀ argument ∈ first :: site.arguments,
      Stands argument.text argument.offset site.list.text := by
    intro argument inside
    rw [← read] at inside
    exact stands_of_mem_expressions inside
  rw [read, List.pairwise_cons] at ordered
  have inFirst : Stands site.key (unquote first.text).2 first.text := by
    rw [key]
    exact stands_unquote first.text
  have keyInList := inFirst.trans (inList first List.mem_cons_self)
  have keyStops : site.keySpan.stop ≤ site.list.offset + first.stop := by
    have bound := inFirst.stop_le
    simp only [Site.keySpan, Piece.stop, position]
    omega
  constructor
  · exact call.slice?
  · exact opening
  · exact list.slice?
  · exact (stands_key_of_mem_sites member).slice?
  · have bound := keyInList.stop_le
    simp only [Site.keySpan, position]
    omega
  · intro argument inside
    have here := (inList argument (List.mem_cons_of_mem _ inside)).trans list
    rw [Site.argumentSpan, Piece.stop, ← Nat.add_assoc]
    exact here.slice?
  · rw [List.pairwise_cons, List.pairwise_map]
    refine ⟨?_, ordered.2.imp fun before => Nat.add_lt_add_left before _⟩
    intro span inside
    obtain ⟨argument, listed, rfl⟩ := List.mem_map.mp inside
    have behind := ordered.1 argument listed
    simp only [Site.argumentSpan]
    omega

end MessageKeys.Call

namespace MessageKeys

open Call Text

/-- Every position that the search for calls reports points at what it says, and every diagnostic
points at a key that has a template. -/
theorem spans_point_at_source (source : Text) (methods : List MethodName) :
    (∀ site ∈ sites source methods, site.StandsIn source) ∧
      ∀ template? : Text → Option Text, ∀ diagnostic ∈ Diagnostic.validate source methods template?,
        ∃ key template, slice? source diagnostic.span.start diagnostic.span.stop = some key ∧
          template? key = some template := by
  refine ⟨fun site member => standsIn_of_mem_sites member, ?_⟩
  intro template? diagnostic member
  obtain ⟨site, found, template, defined, broken⟩ := Diagnostic.mem_validate.mp member
  refine ⟨site.key, template, ?_, defined⟩
  rw [Diagnostic.span_of_mem broken]
  exact (standsIn_of_mem_sites found).key

/-- A call that is never closed, with a blank argument and another call in it. -/
def unclosedCall : Text := "é: log (\n \" ключ\" ,, \"a, б\"; log(\"z\")".toList

theorem spans_point_at_source_unclosed :
    (∃ site ∈ sites unclosedCall (MethodName.ofTexts ["log".toList]),
      site.key = " ключ".toList ∧ site.list.balanced = false ∧ site.arguments.length = 2 ∧
        site.StandsIn unclosedCall) ∧
      ∃ diagnostic ∈ Diagnostic.validate unclosedCall (MethodName.ofTexts ["log".toList])
          fun key => if key = ['z'] then some "\x7b0\x7d".toList else none,
        slice? unclosedCall diagnostic.span.start diagnostic.span.stop = some ['z'] := by
  obtain ⟨points, slices⟩ :=
    spans_point_at_source unclosedCall (MethodName.ofTexts ["log".toList])
  constructor
  · have listed : (" ключ".toList, false, 2) ∈
        (sites unclosedCall (MethodName.ofTexts ["log".toList])).map fun site =>
          (site.key, site.list.balanced, site.arguments.length) := by
      decide +kernel
    obtain ⟨site, member, same⟩ := List.mem_map.mp listed
    simp only [Prod.mk.injEq] at same
    exact ⟨site, member, same.1, same.2.1, same.2.2, points site member⟩
  · obtain ⟨diagnostic, member⟩ := List.exists_mem_of_ne_nil (Diagnostic.validate unclosedCall
      (MethodName.ofTexts ["log".toList])
      fun key => if key = ['z'] then some "\x7b0\x7d".toList else none) (by decide +kernel)
    obtain ⟨key, template, cut, defined⟩ := slices _ diagnostic member
    refine ⟨diagnostic, member, ?_⟩
    split at defined
    · next same => rw [cut, same]
    · cases defined

end MessageKeys
