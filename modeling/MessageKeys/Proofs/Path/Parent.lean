import MessageKeys.Proofs.Path.Destination

/-!
Taking the last part off a path.

The parent of a path has its parts but the last one, and is the path up to there as it is written
(`parent?_cases`). Only the empty path and the root have none. So the paths above a path are a chain
that ends when the parts are used up: `parts_of_above?`.
-/
namespace MessageKeys.Path

/-- The path that is left when parents are taken so many times. -/
def above? : (depth : Nat) → Path → Option Path
  | 0, path => some path
  | depth + 1, path => (parent? path).bind (above? depth)

section Parent

variable {path : Path} {first : Text} {more : List Text}

theorem partsFrom_silent {silent : List Text}
    (allSilent : ∀ piece ∈ silent, isSilent piece = true) : partsFrom false silent = [] := by
  induction silent with
  | nil => rfl
  | cons piece rest ih =>
    rw [List.forall_mem_cons] at allSilent
    have nothing : partAt? false piece = none := by
      have silent := allSilent.1
      simp only [isSilent, Bool.or_eq_true, beq_iff_eq] at silent
      rcases silent with rfl | rfl <;> rfl
    rw [partsFrom, nothing, ih allSilent.2]
    rfl

/-- Behind the start every other piece is a part, and none is the root. -/
theorem exists_part_of_loud {piece : Text} (loud : isSilent piece = false) :
    ∃ part, part ≠ .root ∧ partsFrom false [piece] = [part] := by
  simp only [isSilent, Bool.or_eq_false_iff, beq_eq_false_iff_ne] at loud
  by_cases up : piece = ['.', '.']
  · exact ⟨.parent, by simp, by simp [partsFrom, partAt?, up]⟩
  · exact ⟨.name piece, by simp, by simp [partsFrom, partAt?, loud, up]⟩

theorem loud_of_dropSilentEnd {texts front : List Text} {last : Text}
    (ends : dropSilentEnd texts = front ++ [last]) : isSilent last = false := by
  have reversed : texts.reverse.dropWhile isSilent = last :: front.reverse := by
    rw [← List.reverse_reverse (texts.reverse.dropWhile isSilent), ← dropSilentEnd, ends]
    simp
  have head := List.head?_dropWhile_not isSilent texts.reverse
  rw [reversed, List.head?_cons] at head
  simpa using head

theorem parent?_of_filled (shape : pieces path = first :: more) (filled : dropSilentEnd more ≠ []) :
    parent? path =
      let above := dropSilentEnd (dropSilentEnd more).dropLast
      some (if above = [] ∧ first = [] then ['/'] else ofPieces (first :: above)) := by
  unfold parent?
  rw [shape]
  dsimp only
  split
  · next nothing => exact absurd nothing filled
  · rfl

/-- Pieces that are put together again have the parts that they have on their own. -/
theorem parts_ofPieces (plain : ∀ piece ∈ first :: more, '/' ∉ piece) :
    parts (if more = [] ∧ first = [] then ['/'] else ofPieces (first :: more)) =
      partsFrom true (first :: more) := by
  split
  · next root =>
    rw [root.1, root.2]
    decide
  · next other =>
    have filled : ofPieces (first :: more) ≠ [] := by
      cases more with
      | nil => simpa [ofPieces, Text.join] using other
      | cons second rest => simp [ofPieces, Text.join]
    rw [parts, pieces_ofPieces filled plain]

/-- A path is what its first pieces write, a slash, and what the others write. -/
theorem isPrefix_ofPieces {back : List Text} (filled : Text.join ['/'] back ≠ [])
    (whole : path = ofPieces (first :: (more ++ back))) :
    (if more = [] ∧ first = [] then ['/'] else ofPieces (first :: more)) <+: path ∧
      (if more = [] ∧ first = [] then ['/'] else ofPieces (first :: more)) ≠ path := by
  have some : back ≠ [] := by
    rintro rfl
    exact filled rfl
  have parts : path = ofPieces (first :: more) ++ ['/'] ++ Text.join ['/'] back := by
    rw [whole, ofPieces, ofPieces, ← List.cons_append, Text.join_append _ (by simp) some]
  split
  · next root =>
    rw [root.1, root.2] at parts
    rw [parts]
    exact ⟨⟨Text.join ['/'] back, rfl⟩, by simpa [ofPieces, Text.join] using filled⟩
  · rw [parts, List.append_assoc]
    exact ⟨List.prefix_append _ _, by simp⟩

/-- Taking a parent leaves a path, which is written like the other but ends before its last part. -/
def DropsLast (path above : Path) : Prop :=
  ∃ part, part ≠ .root ∧ parts path = parts above ++ [part] ∧ above <+: path ∧ above ≠ path

/-- A path of a single part is left for the empty one, unless it is the root. -/
theorem parent?_of_single (shape : pieces path = first :: more) (none : dropSilentEnd more = [])
    (pathParts : parts path = partsFrom true [first]) :
    (parent? path = Option.none ∧ parts path = [.root]) ∨
      ∃ above, parent? path = some above ∧ DropsLast path above := by
  by_cases root : first = []
  · left
    refine ⟨by simp [parent?, shape, none, root], ?_⟩
    rw [pathParts, root]
    rfl
  · right
    have only : ∃ part, part ≠ .root ∧ partsFrom true [first] = [part] := by
      by_cases dot : first = ['.']
      · exact ⟨.current, by simp, by rw [dot]; rfl⟩
      · have loud : isSilent first = false := by simp [isSilent, root, dot]
        obtain ⟨part, other, single⟩ := exists_part_of_loud loud
        exact ⟨part, other, by simpa [partsFrom, partAt?, root, dot] using single⟩
    obtain ⟨part, other, single⟩ := only
    have filled : [] ≠ path := by
      rintro rfl
      cases shape
    exact ⟨[], by simp [parent?, shape, none, root], part, other, by rw [pathParts, single]; rfl,
      List.nil_prefix, filled⟩

/-- A path of several parts is left for the one that its pieces before the last part write. -/
theorem parent?_of_several (shape : pieces path = first :: more)
    (plain : ∀ piece ∈ first :: more, '/' ∉ piece) {front silent : List Text} {last : Text}
    (kept : dropSilentEnd more = front ++ [last]) (ended : more = dropSilentEnd more ++ silent)
    (pathParts : parts path = partsFrom true (first :: dropSilentEnd more)) :
    ∃ above, parent? path = some above ∧ DropsLast path above := by
  have loud := loud_of_dropSilentEnd kept
  obtain ⟨part, other, single⟩ := exists_part_of_loud loud
  obtain ⟨between, beginning, allBetween⟩ := dropSilentEnd_append front
  have parent := parent?_of_filled shape (by simp [kept])
  rw [kept, List.dropLast_concat] at parent
  have abovePlain : ∀ piece ∈ first :: dropSilentEnd front, '/' ∉ piece := by
    intro piece member
    apply plain
    rw [ended, kept, beginning]
    rcases List.mem_cons.mp member with same | inside
    · simp [same]
    · simp [inside]
  have filled : Text.join ['/'] (between ++ ([last] ++ silent)) ≠ [] := by
    intro nothing
    have suffix := Text.join_isSuffix ['/'] between ([last] ++ silent)
    rw [nothing, List.suffix_nil, List.singleton_append, Text.join_cons_flatMap,
      List.append_eq_nil_iff] at suffix
    rw [suffix.1] at loud
    cases loud
  have written : path =
      ofPieces (first :: (dropSilentEnd front ++ (between ++ ([last] ++ silent)))) := by
    rw [← List.append_assoc, ← beginning, ← List.append_assoc, ← kept, ← ended, ← shape,
      ofPieces_pieces]
  refine ⟨_, parent, part, other, ?_, isPrefix_ofPieces filled written⟩
  rw [parts_ofPieces abovePlain, pathParts, kept, ← List.cons_append, partsFrom_append,
    beginning, ← List.cons_append, partsFrom_append, ← beginning]
  simp [partsFrom_silent allBetween, single]

end Parent

/-- The empty path and the root have no parent; any other path has one. -/
theorem parent?_cases (path : Path) :
    (parent? path = none ∧ (path = [] ∨ parts path = [.root])) ∨
      ∃ above, parent? path = some above ∧ DropsLast path above := by
  by_cases empty : path = []
  · left
    simp [empty, parent?, pieces]
  obtain ⟨first, more, shape, _⟩ := Text.splitOn_eq_cons '/' path
  have plain : ∀ piece ∈ first :: more, '/' ∉ piece := by
    intro piece member
    rw [← shape] at member
    exact Text.not_mem_of_mem_splitOn member
  rw [← pieces_of_ne_nil empty] at shape
  obtain ⟨silent, ended, allSilent⟩ := dropSilentEnd_append more
  have pathParts : parts path = partsFrom true (first :: dropSilentEnd more) := by
    rw [parts, shape, ended, ← List.cons_append, partsFrom_append, ← ended]
    simp [partsFrom_silent allSilent]
  rcases List.eq_nil_or_concat (dropSilentEnd more) with nothing | ⟨front, last, kept⟩
  · rw [nothing] at pathParts
    exact (parent?_of_single shape nothing pathParts).imp_left (And.imp_right .inr)
  · rw [List.concat_eq_append] at kept
    exact .inr (parent?_of_several shape plain kept ended pathParts)

theorem parent?_eq_none_iff (path : Path) :
    parent? path = none ↔ path = [] ∨ parts path = [.root] := by
  rcases parent?_cases path with ⟨parentless, last⟩ | ⟨above, parent, part, other, drops, _⟩
  · exact iff_of_true parentless last
  · refine iff_of_false (by simp [parent]) ?_
    rintro (rfl | root)
    · exact absurd drops.symm (by simp [parts, pieces, partsFrom])
    · rw [root] at drops
      have last : part = .root := by simpa using (congrArg List.getLast? drops).symm
      exact other last

theorem dropsLast_of_parent? {path above : Path} (taken : parent? path = some above) :
    DropsLast path above := by
  rcases parent?_cases path with ⟨none, _⟩ | ⟨other, parent, drops⟩
  · rw [none] at taken
    cases taken
  · rw [parent] at taken
    rwa [← Option.some.inj taken]

theorem length_lt_of_parent? {path above : Path} (taken : parent? path = some above) :
    above.length < path.length := by
  obtain ⟨_, _, _, begins, proper⟩ := dropsLast_of_parent? taken
  have bound := begins.length_le
  have different : above.length ≠ path.length := fun same => proper (begins.eq_of_length same)
  omega

/-- A path above another one has its parts but as many as parents were taken. -/
theorem parts_of_above? {depth : Nat} {path above : Path} (taken : above? depth path = some above) :
    depth ≤ (parts path).length ∧ parts above = (parts path).take ((parts path).length - depth) ∧
      above <+: path := by
  induction depth generalizing path with
  | zero =>
    cases taken
    exact ⟨Nat.zero_le _, by simp, List.prefix_refl _⟩
  | succ depth ih =>
    obtain ⟨between, parent, further⟩ := Option.bind_eq_some_iff.mp taken
    obtain ⟨bound, front, begins⟩ := ih further
    obtain ⟨part, _, pathParts, inside, _⟩ := dropsLast_of_parent? parent
    have length := congrArg List.length pathParts
    rw [List.length_append, List.length_singleton] at length
    have fewer : (parts path).length - (depth + 1) = (parts between).length - depth := by omega
    refine ⟨by omega, ?_, begins.trans inside⟩
    rw [front, fewer, pathParts, List.take_append_of_le_length (Nat.sub_le _ _)]

end MessageKeys.Path
