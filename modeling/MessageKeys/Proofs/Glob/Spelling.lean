import MessageKeys.Proofs.Glob.Grammar
import MessageKeys.Proofs.Path.Destination

/-!
How the paths that a glob finds are spelled.

A walk goes from path to path by names in the tree, by components without wildcards, and by dots
where a component stands for them. What one such step preserves holds of all found paths
(`expand_invariant`). The directory that a glob is taken from is escaped, so that each of its pieces
leads to the piece itself (`expand_escaped`), and every found path goes on from one and the same
spelling of the directory (`origin`).
-/
namespace MessageKeys

/-- Every route leads up first, if at all, and then down by names. -/
def FileTree.IsNamed (tree : FileTree) : Prop :=
  ∀ entry ∈ tree.entries, ∀ name ∈ entry.1.dropWhile (· == upwards), Path.IsName name

instance (tree : FileTree) : Decidable tree.IsNamed :=
  inferInstanceAs (Decidable (∀ entry ∈ tree.entries, ∀ name ∈ _, _))

namespace FileTree

variable {tree : FileTree} {route names : Route} {node : Node}

theorem suffix_dropWhile {rest other : Route} (ends : rest <:+ other)
    (inside : Route.isOutside rest = false) : rest <:+ other.dropWhile (· == upwards) := by
  induction other with
  | nil => exact ends
  | cons first more ih =>
    rw [List.dropWhile_cons]
    split
    · next up =>
      rcases List.suffix_cons_iff.mp ends with rfl | later
      · simp [Route.isOutside, beq_iff_eq.mp up] at inside
      · exact ih later
    · exact ends

/-- What lies below a directory is reached by names. -/
theorem IsNamed.below (named : tree.IsNamed) (member : (names, node) ∈ tree.below route) :
    names ≠ [] ∧ ∀ name ∈ names, Path.IsName name := by
  unfold FileTree.below at member
  obtain ⟨⟨other, found⟩, inTree, made⟩ := List.mem_filterMap.mp member
  simp only at made
  split at made
  · next holds =>
    obtain ⟨_, some, inside⟩ := holds
    cases made
    refine ⟨some, ?_⟩
    intro name member
    have ends := suffix_dropWhile (List.drop_suffix route.length other) (by simpa using inside)
    exact named _ inTree name (ends.subset member)
  · cases made

end FileTree

namespace Glob

open GlobPattern

/-- What the steps of a walk preserve: `before` holds of the paths that a walk comes to, and `after`
of those behind a step. -/
structure Preserves (patterns : List GlobPattern) (before after : Path → Prop) : Prop where
  weaken : ∀ path, after path → before path
  name : ∀ path name, before path → Path.IsName name → after (extend path name)
  literal : ∀ pattern ∈ patterns, ∀ name, pattern.literal? = some name →
    ∀ path, before path → after (extend path name)
  dots : ∀ pattern ∈ patterns, pattern.tokens.head? = some (.literal '.') →
    ∀ name ∈ [['.'], ['.', '.']], pattern.accepts name = true →
      ∀ path, before path → after (Path.join path name)

section Walking

variable {tree : FileTree} {patterns : List GlobPattern} {before after : Path → Prop}
  {place found : Place}

theorem Preserves.names (preserves : Preserves patterns before after) {path : Path}
    (here : before path) {names : Route} (some : names ≠ [])
    (named : ∀ name ∈ names, Path.IsName name) : after (extendAll path names) := by
  induction names generalizing path with
  | nil => exact absurd rfl some
  | cons name more ih =>
    rw [List.forall_mem_cons] at named
    have step := preserves.name path name here named.1
    by_cases last : more = []
    · subst last
      exact step
    · exact ih (preserves.weaken _ step) last named.2

theorem Preserves.tail {pattern : GlobPattern}
    (preserves : Preserves (pattern :: patterns) before after) :
    Preserves patterns before after where
  weaken := preserves.weaken
  name := preserves.name
  literal other member := preserves.literal other (List.mem_cons_of_mem _ member)
  dots other member := preserves.dots other (List.mem_cons_of_mem _ member)

theorem path_of_mem_children (named : tree.IsNamed) {name : Text}
    (member : (name, found) ∈ children tree place) :
    Path.IsName name ∧ found.path = extend place.path name := by
  unfold children at member
  split at member
  · cases member
  · split at member
    · cases member
    · obtain ⟨⟨names, node⟩, lies, made⟩ := List.mem_filterMap.mp member
      simp only at made
      split at made
      · cases made
        exact ⟨(named.below lies).2 _ (by simp), rfl⟩
      · cases made

theorem path_of_mem_descendants (named : tree.IsNamed) {name : Text}
    (member : (name, found) ∈ descendants tree place) :
    ∃ names, names ≠ [] ∧ (∀ name ∈ names, Path.IsName name) ∧
      found.path = extendAll place.path names := by
  unfold descendants at member
  split at member
  · cases member
  · split at member
    · cases member
    · obtain ⟨⟨names, node⟩, lies, made⟩ := List.mem_filterMap.mp member
      obtain ⟨last, _, same⟩ := Option.map_eq_some_iff.mp made
      cases same
      obtain ⟨some, all⟩ := named.below lies
      exact ⟨names, some, all, rfl⟩

theorem path_of_step? {name : Text} (stepped : step? tree place name = some found) :
    found.path = extend place.path name := by
  simp only [step?] at stepped
  split at stepped
  · split at stepped
    · cases stepped
      rfl
    · cases stepped
  · obtain ⟨node, _, same⟩ := Option.map_eq_some_iff.mp stepped
    cases same
    rfl

theorem path_of_mem_dotEntries {pattern : GlobPattern}
    (member : found ∈ dotEntries tree place pattern) :
    pattern.tokens.head? = some (.literal '.') ∧ ∃ name ∈ [['.'], ['.', '.']],
      pattern.accepts name = true ∧ found.path = Path.join place.path name := by
  unfold dotEntries at member
  split at member
  · next holds =>
    obtain ⟨name, accepted, rfl⟩ := List.mem_map.mp member
    obtain ⟨dot, accepts⟩ := List.mem_filter.mp accepted
    exact ⟨holds.2, name, dot, accepts, rfl⟩
  · cases member

/-- What the steps of a walk preserve holds of all paths that it finds. -/
theorem expand_invariant (named : tree.IsNamed) (preserves : Preserves patterns before after)
    (here : before place.path) (member : found ∈ expand tree patterns place) :
    patterns = [] ∧ found = place ∨ after found.path := by
  -- A path behind a step is one that `after` holds of, whether the walk ends there or goes on.
  have onward {next : Place} {more : List GlobPattern} (step : after next.path)
      (rest : more = [] ∧ found = next ∨ after found.path) : after found.path := by
    rcases rest with ⟨_, rfl⟩ | later
    · exact step
    · exact later
  fun_induction expand tree patterns place with
  | case1 place =>
    rw [List.mem_singleton] at member
    exact .inl ⟨rfl, member⟩
  | case2 pattern more place name literal next stepped ih =>
    have step : after next.path := by
      rw [path_of_step? stepped]
      exact preserves.literal pattern (by simp) name literal _ here
    exact .inr (onward step (ih preserves.tail (preserves.weaken _ step) member))
  | case3 => cases member
  | case4 pattern place wild recursive =>
    obtain ⟨⟨name, _⟩, lies, rfl⟩ := List.mem_map.mp (List.mem_filter.mp member).1
    obtain ⟨names, some, all, path⟩ := path_of_mem_descendants named lies
    rw [path]
    exact .inr (preserves.names here some all)
  | case5 pattern place wild recursive next rest recursive' ih =>
    rcases ih preserves.tail here member with ⟨none, _⟩ | later
    · cases none
    · exact .inr later
  | case6 pattern place wild recursive next rest single ih =>
    obtain ⟨⟨name, below⟩, lies, within⟩ := List.mem_flatMap.mp member
    obtain ⟨names, some, all, path⟩ := path_of_mem_descendants named lies
    have step : after below.path := by
      rw [path]
      exact preserves.names here some all
    simp only at within
    split at within
    · exact .inr (onward step (ih below preserves.tail.tail (preserves.weaken _ step) within))
    · cases within
  | case7 pattern more place wild single ih =>
    rcases List.mem_append.mp member with child | dot
    · obtain ⟨⟨name, below⟩, lies, within⟩ := List.mem_flatMap.mp child
      obtain ⟨isName, path⟩ := path_of_mem_children named lies
      have step : after below.path := by
        rw [path]
        exact preserves.name _ name here isName
      simp only at within
      split at within
      · exact .inr (onward step (ih below preserves.tail (preserves.weaken _ step) within))
      · cases within
    · obtain ⟨next, entry, within⟩ := List.mem_flatMap.mp dot
      obtain ⟨head, name, isDot, accepts, path⟩ := path_of_mem_dotEntries entry
      have step : after next.path := by
        rw [path]
        exact preserves.dots pattern (by simp) head name isDot accepts _ here
      exact .inr (onward step (ih next preserves.tail (preserves.weaken _ step) within))

end Walking

section Escaped

variable {tree : FileTree} {place found : Place} {more : List GlobPattern} {piece name : Text}

/-- A pattern without wildcards and sets consists of its text. -/
theorem literal?_eq_some_iff {pattern : GlobPattern} :
    pattern.literal? = some name ↔ pattern.tokens = name.map .literal := by
  obtain ⟨tokens⟩ := pattern
  unfold literal?
  induction tokens generalizing name with
  | nil => cases name <;> simp
  | cons token rest ih =>
    simp only at ih ⊢
    rw [List.mapM_cons, Option.bind_eq_bind, Option.bind_eq_some_iff]
    cases token with
    | literal c => cases name <;> simp [Option.bind_eq_some_iff, ih, and_comm]
    | _ => cases name <;> simp

theorem accepts_escapedTokens (piece text : Text) :
    (GlobPattern.mk (escapedTokens piece)).accepts text = true ↔ text = piece := by
  unfold accepts
  rw [beq_iff_eq]
  induction piece generalizing text with
  | nil => simp [escapedTokens, run]
  | cons c rest ih =>
    rw [escapedTokens, List.map_cons, ← escapedTokens]
    cases text with
    | nil => split <;> simp [run]
    | cons first others =>
      by_cases same : c = first
      · split <;> simp [run, acceptsChar, GlobItem.accepts, same, ih]
      · split <;> simp [run, acceptsChar, GlobItem.accepts, same, Ne.symm same]

theorem isRecursive_escapedTokens (piece : Text) :
    (GlobPattern.mk (escapedTokens piece)).isRecursive = false := by
  unfold isRecursive escapedTokens
  rw [List.contains_eq_mem, decide_eq_false_iff_not, List.mem_map]
  rintro ⟨c, _, same⟩
  split at same <;> cases same

theorem eq_of_literal?_escapedTokens
    (literal : (GlobPattern.mk (escapedTokens piece)).literal? = some name) : name = piece := by
  rw [literal?_eq_some_iff] at literal
  simp only [escapedTokens] at literal
  induction piece generalizing name with
  | nil => simpa using literal.symm
  | cons c rest ih =>
    cases name with
    | nil => simp at literal
    | cons first others =>
      rw [List.map_cons, List.map_cons, List.cons.injEq] at literal
      obtain ⟨head, tail⟩ := literal
      split at head
      · cases head
      · cases head
        rw [ih tail]

/-- A piece that is escaped leads to the piece itself. -/
theorem expand_escaped (named : tree.IsNamed)
    (member : found ∈ expand tree (⟨escapedTokens piece⟩ :: more) place) :
    ∃ next : Place, next.path = extend place.path piece ∧ found ∈ expand tree more next := by
  rw [expand.eq_def] at member
  simp only at member
  split at member
  · next name literal =>
    cases eq_of_literal?_escapedTokens literal
    split at member
    · next next stepped => exact ⟨next, path_of_step? stepped, member⟩
    · cases member
  · next wild =>
    rw [if_neg (by simp [isRecursive_escapedTokens])] at member
    rcases List.mem_append.mp member with child | dot
    · obtain ⟨⟨name, below⟩, lies, within⟩ := List.mem_flatMap.mp child
      simp only at within
      split at within
      · next accepted =>
        rw [accepts_escapedTokens] at accepted
        subst accepted
        exact ⟨below, (path_of_mem_children named lies).2, within⟩
      · cases within
    · obtain ⟨next, entry, within⟩ := List.mem_flatMap.mp dot
      obtain ⟨_, name, isDot, accepted, _⟩ := path_of_mem_dotEntries entry
      rw [accepts_escapedTokens] at accepted
      subst accepted
      -- Dots are not escaped, so the pattern would be a text.
      have plain : (GlobPattern.mk (escapedTokens name)).literal? = some name := by
        rw [List.mem_pair] at isDot
        rcases isDot with rfl | rfl <;> rfl
      rw [plain] at wild
      cases wild

end Escaped

section Under

variable {tree : FileTree} {base glob : Text} {places : List Place}

theorem splitOn_escape (text : Text) :
    List.splitOn '/' (escape text) = (List.splitOn '/' text).map escape := by
  have slashFree {part : Text} (single : '/' ∉ part) : '/' ∉ escape part := by
    unfold escape
    rw [List.mem_flatMap]
    rintro ⟨c, member, slash⟩
    split at slash
    · next special =>
      simp only [List.mem_cons, List.not_mem_nil, or_false] at slash special
      rcases slash with slash | slash | slash
      · cases slash
      · subst slash
        exact single member
      · cases slash
    · rw [List.mem_singleton] at slash
      subst slash
      exact single member
  induction text using Text.induction_on_parts '/' with
  | last part single =>
    rw [List.splitOn_eq_singleton single, List.splitOn_eq_singleton (slashFree single)]
    rfl
  | more part rest single ih =>
    have escaped : escape (part ++ '/' :: rest) = escape part ++ '/' :: escape rest :=
      escape_append part ('/' :: rest)
    rw [escaped, List.splitOn_append_cons_self, List.splitOn_append_cons_self, ih,
      List.splitOn_eq_singleton single, List.splitOn_eq_singleton (slashFree single)]
    rfl

/-- The pieces of a directory that a glob is taken from. -/
def basePieces (base : Text) : List Text := List.splitOn '/' (withoutEndSlashes base)

theorem components_under (base glob : Text) :
    components (under base glob) = (basePieces base).map escape ++ components glob := by
  obtain ⟨first, more, parts, _⟩ := Text.splitOn_eq_cons '/' glob
  have filled : List.splitOn '/' glob ≠ [] := by simp [parts]
  simp only [components]
  rw [under_eq, List.splitOn_append_cons_self, splitOn_escape, ← basePieces,
    List.getLast?_append_of_ne_nil _ filled, List.dropLast_append_of_ne_nil filled]
  split <;> rfl

theorem patterns_append {front back : List Text} {steps : List GlobPattern}
    (read : patterns (front ++ back) = .ok steps) :
    ∃ first second, patterns front = .ok first ∧ patterns back = .ok second ∧
      steps = first ++ second := by
  induction front generalizing steps with
  | nil => exact ⟨[], steps, rfl, read, rfl⟩
  | cons text more ih =>
    rw [List.cons_append, patterns] at read
    split at read
    · cases read
    · next pattern here =>
      cases later : patterns (more ++ back) with
      | error error => simp [later, Except.map] at read
      | ok rest =>
        obtain ⟨first, second, left, right, whole⟩ := ih later
        simp only [later, Except.map, Except.ok.injEq] at read
        refine ⟨pattern :: first, second, ?_, right, ?_⟩
        · simp only [patterns, here, left, Except.map]
        · rw [← read, whole, List.cons_append]

theorem mem_patterns {texts : List Text} {steps : List GlobPattern}
    (read : patterns texts = .ok steps) {pattern : GlobPattern} (member : pattern ∈ steps) :
    ∃ text ∈ texts, ofText text = .ok pattern := by
  induction texts generalizing steps with
  | nil =>
    cases read
    cases member
  | cons text more ih =>
    rw [patterns] at read
    split at read
    · cases read
    · next first here =>
      cases later : patterns more with
      | error error => simp [later, Except.map] at read
      | ok rest =>
        simp only [later, Except.map, Except.ok.injEq] at read
        subst read
        rcases List.mem_cons.mp member with rfl | inside
        · exact ⟨text, by simp, here⟩
        · obtain ⟨other, present, same⟩ := ih later inside
          exact ⟨other, List.mem_cons_of_mem _ present, same⟩

theorem patterns_escape (pieces : List Text) :
    patterns (pieces.map escape) = .ok (pieces.map fun piece => ⟨escapedTokens piece⟩) := by
  induction pieces with
  | nil => rfl
  | cons piece more ih =>
    have written := (@Writes.nothing false).escape_append piece
    rw [List.append_nil, List.append_nil] at written
    have read : ofText (escape piece) = .ok ⟨escapedTokens piece⟩ :=
      ofText_eq_ok_iff.mpr written.relax
    simp only [List.map_cons, patterns, read, ih, Except.map]

theorem expand_pieces (named : tree.IsNamed) {pieces : List Text} {more : List GlobPattern}
    {place found : Place}
    (member : found ∈ expand tree ((pieces.map fun piece => ⟨escapedTokens piece⟩) ++ more) place) :
    ∃ next : Place, next.path = extendAll place.path pieces ∧ found ∈ expand tree more next := by
  induction pieces generalizing place with
  | nil => exact ⟨place, rfl, member⟩
  | cons piece rest ih =>
    obtain ⟨next, step, onward⟩ := expand_escaped named member
    obtain ⟨last, path, within⟩ := ih onward
    refine ⟨last, ?_, within⟩
    rw [path, step]
    rfl

/-- A text ends in slashes, perhaps none. -/
theorem withoutEndSlashes_append_slashes (text : Text) :
    ∃ count, text = withoutEndSlashes text ++ List.replicate count '/' := by
  induction text using List.reverseRecOn with
  | nil => exact ⟨0, rfl⟩
  | append_singleton front c ih =>
    by_cases slash : c = '/'
    · obtain ⟨count, whole⟩ := ih
      refine ⟨count + 1, ?_⟩
      rw [slash, withoutEndSlashes_append_slash, List.replicate_succ', ← List.append_assoc, ← whole]
    · refine ⟨0, ?_⟩
      rw [withoutEndSlashes_append slash]
      simp

/-- What a walk finds is what the components lead to from the directory itself. -/
theorem exists_of_walk (walked : walk tree glob = .ok places) :
    ∃ steps, patterns (components glob) = .ok steps ∧ ∀ found ∈ places,
      Path.isAbsolute glob = false ∧ found ∈ expand tree steps ⟨['.'], .directory⟩ := by
  unfold walk at walked
  cases read : ofText glob with
  | error error => simp [read, bind, Except.bind] at walked
  | ok whole =>
    cases split : patterns (components glob) with
    | error error => simp [read, split, bind, Except.bind] at walked
    | ok steps =>
      refine ⟨steps, rfl, ?_⟩
      simp only [read, split, bind, Except.bind, pure, Except.pure] at walked
      intro found member
      split at walked
      · cases walked
        cases member
      · next relative =>
        cases walked
        rw [not_or, Bool.not_eq_true] at relative
        refine ⟨relative.1, ?_⟩
        split at member
        · exact (List.mem_filter.mp member).1
        · exact member

theorem relative_of_under (relative : Path.isAbsolute (under base glob) = false) :
    withoutEndSlashes base ≠ [] ∧ Path.isAbsolute base = false := by
  obtain ⟨count, whole⟩ := withoutEndSlashes_append_slashes base
  rw [under_eq] at relative
  cases front : withoutEndSlashes base with
  | nil => simp [front, escape, Path.isAbsolute] at relative
  | cons c more =>
    refine ⟨by simp, ?_⟩
    by_cases slash : c = '/'
    · subst slash
      simp [front, escape, Path.isAbsolute] at relative
    · rw [whole, front]
      simp [Path.isAbsolute, slash]

/-- A walk from a directory comes to the directory first. It finds nothing from the root or from
nowhere. -/
theorem exists_of_walk_under (named : tree.IsNamed)
    (walked : walk tree (under base glob) = .ok places) :
    ∃ steps, patterns (components glob) = .ok steps ∧ ∀ found ∈ places,
      (withoutEndSlashes base ≠ [] ∧ Path.isAbsolute base = false) ∧
        ∃ next : Place, next.path = extendAll ['.'] (basePieces base) ∧
          found ∈ expand tree steps next := by
  obtain ⟨steps, read, reached⟩ := exists_of_walk walked
  rw [components_under] at read
  obtain ⟨first, second, front, back, rfl⟩ := patterns_append read
  rw [patterns_escape] at front
  cases front
  refine ⟨second, back, ?_⟩
  intro found member
  obtain ⟨relative, within⟩ := reached found member
  exact ⟨relative_of_under relative, expand_pieces named within⟩

end Under

section Base

variable {base path name : Path} {names : List Text}

/-- A step goes on with the parts of a path that does not mean the current directory. -/
theorem parts_extend (filled : path ≠ []) (other : Path.parts path ≠ [.current])
    (single : '/' ∉ name) :
    Path.parts (extend path name) = Path.parts path ++ Path.partsFrom false [name] := by
  rw [extend, if_neg other, Path.parts_join filled (Path.isAbsolute_of_not_mem single),
    List.splitOn_eq_singleton single]

theorem extend_ne_nil (filled : path ≠ []) (other : Path.parts path ≠ [.current]) (name : Text) :
    extend path name ≠ [] := by
  rw [extend, if_neg other]
  exact Path.join_ne_nil filled name

theorem parts_extendAll (filled : path ≠ []) (start : (Path.parts path).head? ≠ some .current)
    (single : ∀ name ∈ names, '/' ∉ name) :
    extendAll path names ≠ [] ∧
      Path.parts (extendAll path names) = Path.parts path ++ Path.partsFrom false names := by
  induction names generalizing path with
  | nil => exact ⟨filled, by simp [extendAll, Path.partsFrom]⟩
  | cons name more ih =>
    rw [List.forall_mem_cons] at single
    have other : Path.parts path ≠ [.current] := fun same => start (by rw [same]; rfl)
    have step := parts_extend filled other single.1
    have start' : (Path.parts (extend path name)).head? ≠ some .current := by
      rw [step, List.head?_append_of_ne_nil _ (Path.parts_ne_nil filled)]
      exact start
    obtain ⟨filled', parts⟩ := ih (extend_ne_nil filled other name) start' single.2
    refine ⟨filled', ?_⟩
    rw [extendAll, List.foldl_cons, ← extendAll, parts, step, List.append_assoc]
    simp [Path.partsFrom]

theorem parts_withoutEndSlashes (filled : withoutEndSlashes base ≠ []) :
    Path.parts (withoutEndSlashes base) = Path.parts base := by
  obtain ⟨count, whole⟩ := withoutEndSlashes_append_slashes base
  generalize withoutEndSlashes base = front at whole filled
  subst whole
  induction count with
  | zero => simp
  | succ count ih =>
    have silent : Path.partsFrom false (List.splitOn '/' []) = [] := by
      simp [Path.partsFrom, Path.partAt?]
    rw [ih, List.replicate_succ', ← List.append_assoc, Path.parts_append_slash, silent,
      List.append_nil, Path.parts_of_ne_nil (by simp [filled])]

/-- The first piece of a relative path is not empty. -/
theorem exists_basePieces (filled : withoutEndSlashes base ≠ [])
    (relative : Path.isAbsolute base = false) :
    ∃ first more, basePieces base = first :: more ∧ first ≠ [] := by
  obtain ⟨count, whole⟩ := withoutEndSlashes_append_slashes base
  obtain ⟨c, rest, front⟩ := List.exists_cons_of_ne_nil filled
  have other : c ≠ '/' := by
    rintro rfl
    rw [whole, front] at relative
    simp [Path.isAbsolute] at relative
  obtain ⟨first, more, pieces, _⟩ := Text.splitOn_eq_cons '/' rest
  have plain : '/' ∉ [c] := by simp [Ne.symm other]
  refine ⟨[c] ++ first, more, ?_, by simp⟩
  rw [basePieces, front, ← List.singleton_append, Text.splitOn_append_of_not_mem plain, pieces]
  rfl

/-- A walk comes to a relative directory by the parts of the directory, if these do not begin with a
dot. -/
theorem parts_basePieces (filled : withoutEndSlashes base ≠ [])
    (relative : Path.isAbsolute base = false) (start : (Path.parts base).head? ≠ some .current) :
    extendAll ['.'] (basePieces base) ≠ [] ∧
      Path.parts (extendAll ['.'] (basePieces base)) = Path.parts base := by
  obtain ⟨first, more, pieces, named⟩ := exists_basePieces filled relative
  have single (piece : Text) (member : piece ∈ first :: more) : '/' ∉ piece := by
    rw [← pieces] at member
    exact Text.not_mem_of_mem_splitOn member
  rw [List.forall_mem_cons] at single
  have here : Path.parts first = Path.partsFrom true [first] := by
    rw [Path.parts_of_ne_nil named, List.splitOn_eq_singleton single.1]
  have whole : Path.parts base = Path.parts first ++ Path.partsFrom false more := by
    rw [← parts_withoutEndSlashes filled, Path.parts_of_ne_nil filled, ← basePieces, pieces, here]
    simp [Path.partsFrom]
  have start' : (Path.parts first).head? ≠ some .current := by
    rwa [whole, List.head?_append_of_ne_nil _ (Path.parts_ne_nil named)] at start
  have first_step : extendAll ['.'] (first :: more) = extendAll first more := rfl
  rw [pieces, first_step, whole]
  exact parts_extendAll named start' single.2

/-- What the paths that a walk finds from a directory begin with. A path that means the current
directory leaves no trace. -/
def origin (base : Path) : Path :=
  if Path.parts (extendAll ['.'] (basePieces base)) = [.current] then []
  else extendAll ['.'] (basePieces base)

theorem extendAll_eq_foldl_join (other : Path.parts path ≠ [.current])
    (named : ∀ name ∈ names, Path.IsName name) :
    extendAll path names = names.foldl Path.join path := by
  induction names generalizing path with
  | nil => rfl
  | cons name more ih =>
    rw [List.forall_mem_cons] at named
    have behind : Path.parts (Path.join path name) ≠ [.current] := by
      rw [Path.parts_join_name path named.1]
      intro same
      have last := congrArg List.getLast? same
      simp at last
    rw [extendAll, List.foldl_cons, ← extendAll, extend, if_neg other, ih behind named.2]
    rfl

/-- Names lead from a directory as paths that go on from the origin. -/
theorem extendAll_eq_origin (some : names ≠ []) (named : ∀ name ∈ names, Path.IsName name) :
    extendAll (extendAll ['.'] (basePieces base)) names = names.foldl Path.join (origin base) := by
  unfold origin
  split
  · next current =>
    cases names with
    | nil => exact absurd rfl some
    | cons name more =>
      rw [List.forall_mem_cons] at named
      have first : extend (extendAll ['.'] (basePieces base)) name = name := by
        rw [extend, if_pos current]
      have alone : Path.join [] name = name := by simp [Path.join]
      have other : Path.parts name ≠ [.current] := by
        rw [← alone, Path.parts_join_name [] named.1]
        simp [Path.parts, Path.pieces, Path.partsFrom]
      rw [extendAll, List.foldl_cons, ← extendAll, first, List.foldl_cons, alone,
        extendAll_eq_foldl_join other named.2]
  · next other => exact extendAll_eq_foldl_join other named

end Base

section Components

variable {glob component name : Text} {pattern : GlobPattern}

/-- Whether a component of a glob begins with a dot and accepts a name. -/
def standsFor (glob name : Text) : Bool :=
  (components glob).any fun component =>
    (ofText component).toOption.any fun pattern =>
      pattern.tokens.head? == some (.literal '.') && pattern.accepts name

theorem standsFor_of_mem (member : component ∈ components glob)
    (read : ofText component = .ok pattern)
    (head : pattern.tokens.head? = some (.literal '.'))
    (accepted : pattern.accepts name = true) :
    standsFor glob name = true := by
  unfold standsFor
  rw [List.any_eq_true]
  refine ⟨component, member, ?_⟩
  simp [read, Except.toOption, head, accepted]

theorem not_mem_of_mem_components (member : component ∈ components glob) : '/' ∉ component := by
  have inside : component ∈ List.splitOn '/' glob := by
    simp only [components] at member
    split at member
    · exact List.dropLast_subset _ member
    · exact member
  exact Text.not_mem_of_mem_splitOn inside

/-- A glob with wildcards has components. -/
theorem patterns_components_ne_nil (wild : hasWildcard glob = true) :
    patterns (components glob) ≠ .ok [] := by
  obtain ⟨first, more, pieces, _⟩ := Text.splitOn_eq_cons '/' glob
  have whole : List.intercalate ['/'] (List.splitOn '/' glob) = glob := List.intercalate_splitOn _
  have some : components glob ≠ [] := by
    simp only [components, pieces]
    split
    · next last =>
      cases more with
      | nil =>
        rw [List.getLast?_singleton, Option.some.injEq] at last
        rw [pieces, List.intercalate_singleton, last] at whole
        rw [← whole] at wild
        cases wild
      | cons second others => simp
    · simp
  intro read
  obtain ⟨component, others, parts⟩ := List.exists_cons_of_ne_nil some
  rw [parts, patterns] at read
  split at read
  · cases read
  · cases rest : patterns others <;> simp [rest, Except.map] at read

theorem eq_of_writes_literals {free : Bool} {text : Text}
    (written : Writes free text (name.map .literal)) : text = name := by
  induction name generalizing free text with
  | nil =>
    cases written
    rfl
  | cons c more ih =>
    cases written with
    | literal _ rest => rw [ih rest]

theorem accepts_of_literals (literals : pattern.tokens = name.map .literal) :
    pattern.accepts name = true := by
  unfold accepts
  rw [literals, beq_iff_eq]
  clear literals
  induction name with
  | nil => rfl
  | cons c more ih => simp [run, acceptsChar, ih]

/-- A component without wildcards is a piece, and stands for it if it begins with a dot. -/
theorem eq_of_literal? (read : ofText component = .ok pattern)
    (literal : pattern.literal? = some name) : component = name := by
  have written := ofText_eq_ok_iff.mp read
  rw [literal?_eq_some_iff.mp literal] at written
  exact eq_of_writes_literals written

theorem standsFor_of_literal? (member : component ∈ components glob)
    (read : ofText component = .ok pattern) (literal : pattern.literal? = some name)
    (dot : name.head? = some '.') : standsFor glob name = true := by
  have literals := literal?_eq_some_iff.mp literal
  refine standsFor_of_mem member read ?_ (accepts_of_literals literals)
  rw [literals, List.head?_map, dot]
  rfl

theorem partsFrom_piece (loud : name ≠ upwards) :
    ∃ names : List Text, Path.partsFrom false [name] = names.map .name := by
  by_cases empty : name = []
  · exact ⟨[], by simp [Path.partsFrom, Path.partAt?, empty]⟩
  by_cases dot : name = ['.']
  · exact ⟨[], by simp [Path.partsFrom, Path.partAt?, dot]⟩
  · have dots : name ≠ ['.', '.'] := loud
    exact ⟨[name], by simp [Path.partsFrom, Path.partAt?, empty, dot, dots]⟩

/-- From a directory whose parts do not begin with a dot, a walk goes on by names only, if no
component stands for a pair of dots. -/
theorem preserves_leadsDown {base : Path} {steps : List GlobPattern}
    (read : patterns (components glob) = .ok steps) (filled : base ≠ [])
    (start : (Path.parts base).head? ≠ some .current) (downward : standsFor glob upwards = false) :
    Preserves steps (fun path => path ≠ [] ∧ Path.LeadsDown base path)
      fun path => path ≠ [] ∧ Path.LeadsDown base path := by
  have extends_eq (path name : Text) (leads : Path.LeadsDown base path) :
      extend path name = Path.join path name := by
    obtain ⟨names, parts⟩ := leads
    refine if_neg ?_
    intro current
    rw [current] at parts
    apply start
    rw [← List.head?_append_of_ne_nil _ (Path.parts_ne_nil filled), ← parts]
    rfl
  have step (path name : Text) (here : path ≠ [] ∧ Path.LeadsDown base path)
      (single : '/' ∉ name) (loud : name ≠ upwards) :
      Path.join path name ≠ [] ∧ Path.LeadsDown base (Path.join path name) := by
    obtain ⟨some, names, parts⟩ := here
    obtain ⟨more, piece⟩ := partsFrom_piece loud
    refine ⟨Path.join_ne_nil some name, names ++ more, ?_⟩
    rw [Path.parts_join some (Path.isAbsolute_of_not_mem single),
      List.splitOn_eq_singleton single, parts, piece, List.map_append, List.append_assoc]
  constructor
  case weaken => exact fun _ holds => holds
  case name =>
    intro path name here named
    rw [extends_eq path name here.2]
    exact step path name here named.2.2.2 named.2.2.1
  case literal =>
    intro pattern member name literal path here
    obtain ⟨component, inside, parsed⟩ := mem_patterns read member
    have loud : name ≠ upwards := by
      rintro rfl
      rw [standsFor_of_literal? inside parsed literal rfl] at downward
      cases downward
    have single : '/' ∉ name := eq_of_literal? parsed literal ▸ not_mem_of_mem_components inside
    rw [extends_eq path name here.2]
    exact step path name here single loud
  case dots =>
    intro pattern member head name dot accepted path here
    obtain ⟨component, inside, parsed⟩ := mem_patterns read member
    rw [List.mem_pair] at dot
    rcases dot with rfl | rfl
    · exact step path _ here (by simp) (by decide)
    · have stands : standsFor glob upwards = true := standsFor_of_mem inside parsed head accepted
      rw [stands] at downward
      cases downward

/-- By components that are names, and patterns for names, a walk goes on by names only. -/
theorem preserves_extendAll {path : Path} {steps : List GlobPattern}
    (read : patterns (components glob) = .ok steps) (filled : [] ∉ components glob)
    (noDot : standsFor glob ['.'] = false) (noDots : standsFor glob upwards = false) :
    Preserves steps
      (fun reached => ∃ names, (∀ name ∈ names, Path.IsName name) ∧ reached = extendAll path names)
      fun reached => ∃ names, names ≠ [] ∧ (∀ name ∈ names, Path.IsName name) ∧
        reached = extendAll path names := by
  have step (reached name : Text)
      (here : ∃ names, (∀ name ∈ names, Path.IsName name) ∧ reached = extendAll path names)
      (named : Path.IsName name) :
      ∃ names, names ≠ [] ∧ (∀ name ∈ names, Path.IsName name) ∧
        extend reached name = extendAll path names := by
    obtain ⟨names, all, rfl⟩ := here
    refine ⟨names ++ [name], by simp, ?_, by simp [extendAll]⟩
    rw [List.forall_mem_append, List.forall_mem_singleton]
    exact ⟨all, named⟩
  constructor
  case weaken =>
    rintro reached ⟨names, _, all, same⟩
    exact ⟨names, all, same⟩
  case name => exact step
  case literal =>
    intro pattern member name literal reached here
    obtain ⟨component, inside, parsed⟩ := mem_patterns read member
    have same := eq_of_literal? parsed literal
    refine step reached name here ⟨?_, ?_, ?_, ?_⟩
    · rintro rfl
      rw [same] at inside
      exact filled inside
    · rintro rfl
      rw [standsFor_of_literal? inside parsed literal rfl] at noDot
      cases noDot
    · rintro rfl
      have stands : standsFor glob upwards = true :=
        standsFor_of_literal? inside parsed literal rfl
      rw [stands] at noDots
      cases noDots
    · rw [← same]
      exact not_mem_of_mem_components inside
  case dots =>
    intro pattern member head name dot accepted reached here
    obtain ⟨component, inside, parsed⟩ := mem_patterns read member
    have stands := standsFor_of_mem inside parsed head accepted
    rw [List.mem_pair] at dot
    rcases dot with rfl | rfl
    · rw [noDot] at stands
      cases stands
    · have never : standsFor glob upwards = true := stands
      rw [noDots] at never
      cases never

end Components

end Glob

end MessageKeys
