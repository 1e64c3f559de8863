import MessageKeys.Proofs.Distinct
import MessageKeys.Proofs.Glob.Spelling
import MessageKeys.Source.Scan

/-!
Which files a scan finds, and how their paths are spelled.

A scan compares paths as they are written, while a file can be reached by paths that are written in
several ways: from the base, from an include that is joined to it, or from a glob, which drops a dot
at the start. A directory is ignored where every starting point goes on from the base by names
(`ignored_never_scanned`), and a file is listed once where all starting points are spelled from one
path (`scanned_once`). A glob from the current directory breaks both.
-/
namespace MessageKeys

namespace Scan

/-- Where a scan starts. -/
inductive StartsAt (tree : FileTree) (base : Path) (options : ScanOptions) : Path → Prop where
  | base (none : options.includes = []) : StartsAt tree base options base
  | included {text : Text} {starts : List Path} {start : Path} (member : text ∈ options.includes)
    (found : startsOf tree base text = .ok starts) (here : start ∈ starts) :
    StartsAt tree base options start

section Files

variable {tree : FileTree} {base : Path} {options : ScanOptions} {file : Path}

theorem mem_successes {α : Type} {results : List (Except ScanWarning (List α))} {value : α}
    (member : value ∈ successes results) : ∃ values, .ok values ∈ results ∧ value ∈ values := by
  obtain ⟨result, listed, inside⟩ := List.mem_flatMap.mp member
  cases result with
  | error warning => cases inside
  | ok values => exact ⟨values, listed, inside⟩

/-- The paths of a scan in the order in which they are found. -/
def found (tree : FileTree) (base : Path) (options : ScanOptions) : List Path :=
  let starts :=
    if options.includes = [] then [base]
    else successes (options.includes.map (startsOf tree base))
  (successes (starts.map (reach tree))).filterMap fun (path, node) =>
    if !node.isDirectory && isSource path && !(exclusion base options).covers base path then
      some path
    else none

theorem mem_files : file ∈ (run tree base options).files ↔ file ∈ found tree base options := by
  simp only [run, mem_distinct, List.mem_mergeSort]
  rfl

/-- What a scan lists is a file that it reaches and does not leave out. -/
theorem exists_of_mem_files (member : file ∈ (run tree base options).files) :
    ∃ start reached node, StartsAt tree base options start ∧ reach tree start = .ok reached ∧
      (file, node) ∈ reached ∧ node.isDirectory = false ∧
        (exclusion base options).covers base file = false := by
  rw [mem_files, found] at member
  obtain ⟨⟨path, node⟩, reaches, kept⟩ := List.mem_filterMap.mp member
  simp only at kept
  split at kept
  · next holds =>
    cases kept
    simp only [Bool.and_eq_true, Bool.not_eq_true'] at holds
    obtain ⟨values, listed, inside⟩ := mem_successes reaches
    obtain ⟨start, starts, reached⟩ := List.mem_map.mp listed
    refine ⟨start, values, node, ?_, reached, inside, holds.1.1, holds.2⟩
    split at starts
    · next none =>
      rw [List.mem_singleton] at starts
      subst starts
      exact .base none
    · obtain ⟨paths, given, here⟩ := mem_successes starts
      obtain ⟨text, included, found⟩ := List.mem_map.mp given
      exact .included included found here
  · cases kept

/-- A file is reached from a starting point by names, or is the starting point itself. -/
theorem exists_of_mem_reach (named : tree.IsNamed) {start : Path} {reached : List (Path × Node)}
    {node : Node} (found : reach tree start = .ok reached) (member : (file, node) ∈ reached) :
    ∃ names, (∀ name ∈ names, Path.IsName name) ∧ file = names.foldl Path.join start ∧
      (names = [] → ∃ route, tree.resolve start = .ok route ∧ tree.at? route = some node) := by
  unfold reach at found
  split at found
  · cases found
  · next route resolved =>
    cases found
    rcases List.mem_append.mp member with here | inside
    · rw [Option.mem_toList] at here
      obtain ⟨found, held, same⟩ := Option.map_eq_some_iff.mp here
      cases same
      exact ⟨[], by simp, rfl, fun _ => ⟨route, resolved, held⟩⟩
    · obtain ⟨⟨names, found⟩, lies, same⟩ := List.mem_map.mp inside
      cases same
      obtain ⟨some, all⟩ := named.below lies
      exact ⟨names, all, rfl, fun none => absurd none some⟩

end Files

section Ignoring

variable {tree : FileTree} {base : Path} {options : ScanOptions} {text ignore file : Text}

/-- What an include leads to goes on from the base by names. A path does so itself; for a glob the
base does not begin with a dot, and no component leads up. -/
def KeepsBase (base : Path) (text : Text) : Prop :=
  if GlobPattern.hasWildcard text then
    (Path.parts base).head? ≠ some .current ∧ Glob.standsFor text upwards = false
  else Path.LeadsDown base (Path.join base text)

theorem leadsDown_of_startsOf (named : tree.IsNamed) (keeps : KeepsBase base text)
    {starts : List Path} (found : startsOf tree base text = .ok starts) {start : Path}
    (member : start ∈ starts) : Path.LeadsDown base start := by
  unfold startsOf at found
  unfold KeepsBase at keeps
  split at found
  · next wild =>
    rw [if_pos wild] at keeps
    obtain ⟨first, downward⟩ := keeps
    split at found
    · cases found
    · next places walked =>
      cases found
      obtain ⟨place, listed, rfl⟩ := List.mem_map.mp member
      obtain ⟨steps, read, reached⟩ := Glob.exists_of_walk_under named walked
      obtain ⟨⟨filled, relative⟩, next, path, within⟩ := reached place (List.mem_filter.mp listed).1
      have some : base ≠ [] := by
        rintro rfl
        exact filled rfl
      obtain ⟨reaches, parts⟩ := Glob.parts_basePieces filled relative first
      have here : next.path ≠ [] ∧ Path.LeadsDown base next.path := by
        rw [path]
        exact ⟨reaches, [], by simp [parts]⟩
      have preserves := Glob.preserves_leadsDown read some first downward
      rcases Glob.expand_invariant named preserves here within with ⟨_, rfl⟩ | behind
      · exact here.2
      · exact behind.2
  · next literal =>
    rw [if_neg literal] at keeps
    split at found
    · cases found
      rw [List.mem_singleton] at member
      rwa [member]
    · cases found

/-- No file of a scan lies in a directory that is ignored by its path, if the ignored path and every
include go on from the base by names. -/
theorem ignored_never_scanned (named : tree.IsNamed)
    (includes : ∀ text ∈ options.includes, KeepsBase base text)
    (ignored : ignore ∈ options.ignores) (literal : GlobPattern.hasWildcard ignore = false)
    (down : Path.LeadsDown base (Path.join base ignore))
    (member : file ∈ (run tree base options).files) :
    ¬(Path.destination file).Within (Path.destination (Path.join base ignore)) := by
  obtain ⟨start, reached, node, starts, found, here, _, uncovered⟩ := exists_of_mem_files member
  obtain ⟨names, all, rfl, _⟩ := exists_of_mem_reach named found here
  have leads : Path.LeadsDown base start := by
    cases starts with
    | base none => exact ⟨[], by simp⟩
    | included listed given here =>
      exact leadsDown_of_startsOf named (includes _ listed) given here
  intro within
  have begins := Path.prefix_of_within (leads.foldl_join all) down within
  have covered : (exclusion base options).directories.any
      (Path.liesIn · (names.foldl Path.join start)) = true := by
    rw [List.any_eq_true]
    refine ⟨Path.join base ignore, ?_, Path.liesIn_iff.mpr begins⟩
    exact List.mem_map_of_mem (List.mem_filter.mpr ⟨ignored, by simp [literal]⟩)
  simp [Exclusion.covers, covered] at uncovered

/-- Includes that overlap, by their paths and by globs, and lead to an ignored directory. -/
theorem ignored_never_scanned_overlapping :
    let tree : FileTree := ⟨[([['b']], .directory), ([['b'], ['s']], .directory),
      ([['b'], ['s'], ['t']], .directory), ([['b'], ['s'], "A.java".toList], .file (.text [])),
      ([['b'], ['s'], ['t'], "B.java".toList], .file (.text []))]⟩
    let options : ScanOptions := ⟨[['s'], "s*".toList, "s/**".toList], ["s/./t".toList], false⟩
    "b/s/A.java".toList ∈ (run tree ['b'] options).files ∧
      ∀ file ∈ (run tree ['b'] options).files,
        ¬(Path.destination file).Within (Path.destination (Path.join ['b'] "s/./t".toList)) := by
  refine ⟨mem_files.mpr (by decide +kernel), ?_⟩
  intro file member
  refine ignored_never_scanned (by decide) ?_ (by simp) (by decide) ⟨[['s'], ['t']], by decide⟩
    member
  intro text included
  simp only [List.mem_cons, List.not_mem_nil, or_false] at included
  rcases included with rfl | rfl | rfl
  · exact ⟨[['s']], by decide⟩
  · exact ⟨by decide, by decide⟩
  · exact ⟨by decide, by decide⟩

/-- A glob finds files in an ignored directory, since it drops the dot that the ignored path begins
with. -/
theorem glob_scans_ignored :
    let tree : FileTree := ⟨[(["src".toList], .directory),
      (["src".toList, "A.java".toList], .file (.text ['x']))]⟩
    let options : ScanOptions := ⟨["s*".toList], ["src".toList], false⟩
    tree.IsNamed ∧ "src/A.java".toList ∈ (run tree ['.'] options).files ∧
      (Path.destination "src/A.java".toList).Within
        (Path.destination (Path.join ['.'] "src".toList)) :=
  ⟨by decide, mem_files.mpr (by decide +kernel), by decide⟩

end Ignoring

section Once

variable {tree : FileTree} {base anchor start : Path} {options : ScanOptions} {text : Text}

/-- A path that goes on from an anchor by names, perhaps with a slash at its end. -/
def SpelledFrom (anchor path : Path) : Prop :=
  ∃ names : List Text, (∀ name ∈ names, Path.IsName name) ∧
    (path = names.foldl Path.join anchor ∨ path = Path.join (names.foldl Path.join anchor) [])

/-- All that an include leads to is spelled from an anchor: the path that it is joined to, or, for a
glob of names and patterns for names, the base as a walk spells it. -/
def IncludesFrom (anchor base : Path) (text : Text) : Prop :=
  if GlobPattern.hasWildcard text then
    SpelledFrom anchor (Glob.origin base) ∧ [] ∉ Glob.components text ∧
      Glob.standsFor text ['.'] = false ∧ Glob.standsFor text upwards = false
  else SpelledFrom anchor (Path.join base text)

/-- An include that consists of names is spelled from the base. -/
theorem spelledFrom_join (base : Path) (named : ∀ name ∈ Glob.components text, Path.IsName name) :
    SpelledFrom base (Path.join base text) := by
  have whole : Text.join ['/'] (List.splitOn '/' text) = text := by
    rw [Text.join_eq_intercalate, List.intercalate_splitOn]
  obtain ⟨first, more, pieces, _⟩ := Text.splitOn_eq_cons '/' text
  obtain ⟨front, last, parts⟩ : ∃ front last, List.splitOn '/' text = front ++ [last] :=
    (List.eq_nil_or_concat' (List.splitOn '/' text)).resolve_left (by simp [pieces])
  have divided (some : front ≠ []) : text = Text.join ['/'] front ++ '/' :: last := by
    rw [← whole, parts, Text.join_append ['/'] some (by simp), Text.join]
    simp
  simp only [Glob.components, parts, List.getLast?_concat, Option.some.injEq] at named
  by_cases slash : last = []
  · rw [if_pos slash, List.dropLast_concat] at named
    refine ⟨front, named, .inr ?_⟩
    by_cases none : front = []
    · rw [← whole, parts, none, slash]
      rfl
    · rw [divided none, slash, Path.join_names_append base none named rfl]
  · rw [if_neg slash, List.forall_mem_append, List.forall_mem_singleton] at named
    refine ⟨front ++ [last], ?_, .inl ?_⟩
    · rw [List.forall_mem_append, List.forall_mem_singleton]
      exact named
    · rw [List.foldl_concat]
      by_cases none : front = []
      · rw [← whole, parts, none]
        rfl
      · rw [divided none, Path.join_names_append base none named.1
          (Path.isAbsolute_of_not_mem named.2.2.2.2)]

/-- Further names go on from the same anchor, and no slash at the end is left. -/
theorem SpelledFrom.foldl_join (spelled : SpelledFrom anchor start) {names : List Text}
    (some : names ≠ []) (named : ∀ name ∈ names, Path.IsName name) :
    ∃ whole : List Text, (∀ name ∈ whole, Path.IsName name) ∧
      names.foldl Path.join start = whole.foldl Path.join anchor := by
  obtain ⟨front, all, same⟩ := spelled
  refine ⟨front ++ names, ?_, ?_⟩
  · rw [List.forall_mem_append]
    exact ⟨all, named⟩
  · rw [List.foldl_append]
    rcases same with rfl | rfl
    · rfl
    · cases names with
      | nil => exact absurd rfl some
      | cons name more =>
        rw [List.forall_mem_cons] at named
        rw [List.foldl_cons, List.foldl_cons, Path.join_join_nil]

theorem spelledFrom_of_startsOf (named : tree.IsNamed) (spelled : IncludesFrom anchor base text)
    {starts : List Path} (found : startsOf tree base text = .ok starts) (member : start ∈ starts) :
    SpelledFrom anchor start := by
  unfold startsOf at found
  unfold IncludesFrom at spelled
  split at found
  · next wild =>
    rw [if_pos wild] at spelled
    obtain ⟨origin, filled, noDot, noDots⟩ := spelled
    split at found
    · cases found
    · next places walked =>
      cases found
      obtain ⟨place, listed, rfl⟩ := List.mem_map.mp member
      obtain ⟨steps, read, reached⟩ := Glob.exists_of_walk_under named walked
      obtain ⟨_, next, path, within⟩ := reached place (List.mem_filter.mp listed).1
      have preserves := @Glob.preserves_extendAll text next.path steps read filled noDot noDots
      rcases Glob.expand_invariant named preserves ⟨[], by simp, rfl⟩ within with
        ⟨rfl, _⟩ | ⟨names, some, all, same⟩
      · exact absurd read (Glob.patterns_components_ne_nil wild)
      · rw [path, Glob.extendAll_eq_origin some all] at same
        obtain ⟨whole, all', same'⟩ := origin.foldl_join some all
        exact ⟨whole, all', .inl (same.trans same')⟩
  · next literal =>
    rw [if_neg literal] at spelled
    split at found
    · cases found
      rw [List.mem_singleton] at member
      rwa [member]
    · cases found

/-- The files that a scan reaches from a starting point are spelled from the same anchor. -/
theorem exists_of_spelledFrom (named : tree.IsNamed) (spelled : SpelledFrom anchor start)
    {reached : List (Path × Node)} (found : reach tree start = .ok reached) {file : Path}
    {node : Node} (member : (file, node) ∈ reached) (isFile : node.isDirectory = false) :
    ∃ names : List Text, (∀ name ∈ names, Path.IsName name) ∧
      file = names.foldl Path.join anchor := by
  obtain ⟨names, all, rfl, here⟩ := exists_of_mem_reach named found member
  by_cases none : names = []
  · obtain ⟨route, resolved, held⟩ := here none
    obtain ⟨front, all', same⟩ := spelled
    refine ⟨front, all', ?_⟩
    rw [none]
    rcases same with rfl | rfl
    · rfl
    · by_contra slash
      rw [tree.directory_of_resolve_slash slash resolved] at held
      cases held
      cases isFile
  · exact spelled.foldl_join none all

/-- Two paths of a scan that lead to one place are one path, if all that is included is spelled from
one anchor. -/
theorem scanned_once (named : tree.IsNamed)
    (includes : ∀ text ∈ options.includes, IncludesFrom anchor base text) {file other : Path}
    (here : file ∈ (run tree base options).files) (there : other ∈ (run tree base options).files)
    (same : Path.destination file = Path.destination other) : file = other := by
  -- The base is the anchor if nothing is included.
  have spelled : ∃ origin : Path, ∀ start, StartsAt tree base options start →
      SpelledFrom origin start := by
    by_cases none : options.includes = []
    · refine ⟨base, ?_⟩
      intro start starts
      cases starts with
      | base _ => exact ⟨[], by simp, .inl rfl⟩
      | included member _ _ => simp [none] at member
    · refine ⟨anchor, ?_⟩
      intro start starts
      cases starts with
      | base empty => exact absurd empty none
      | included member found here =>
        exact spelledFrom_of_startsOf named (includes _ member) found here
  obtain ⟨origin, each⟩ := spelled
  obtain ⟨start, reached, node, starts, found, member, isFile, _⟩ := exists_of_mem_files here
  obtain ⟨start', reached', node', starts', found', member', isFile', _⟩ :=
    exists_of_mem_files there
  obtain ⟨names, all, rfl⟩ := exists_of_spelledFrom named (each _ starts) found member isFile
  obtain ⟨names', all', rfl⟩ := exists_of_spelledFrom named (each _ starts') found' member' isFile'
  rw [Path.names_eq_of_destination (Path.parts_foldl_join origin all)
    (Path.parts_foldl_join origin all') same]

/-- Includes that overlap, by their paths, with and without a slash at the end, and by globs. -/
theorem scanned_once_overlapping :
    let tree : FileTree := ⟨[([['b']], .directory), ([['b'], ['s']], .directory),
      ([['b'], ['s'], ['t']], .directory), ([['b'], ['s'], "A.java".toList], .file (.text [])),
      ([['b'], ['s'], ['t'], "B.java".toList], .file (.text []))]⟩
    let options : ScanOptions :=
      ⟨["s/t".toList, "s/".toList, "s*".toList, "**/t".toList, "s/A.java".toList], [], false⟩
    "b/s/A.java".toList ∈ (run tree ['b'] options).files ∧
      "b/s/t/B.java".toList ∈ (run tree ['b'] options).files ∧
      ∀ file ∈ (run tree ['b'] options).files, ∀ other ∈ (run tree ['b'] options).files,
        Path.destination file = Path.destination other → file = other := by
  refine ⟨mem_files.mpr (by decide +kernel), mem_files.mpr (by decide +kernel), ?_⟩
  intro file here other there
  have origin : SpelledFrom ['b'] (Glob.origin ['b']) := ⟨[], by simp, .inl (by decide)⟩
  refine @scanned_once _ _ ['b'] _ (by decide) ?_ _ _ here there
  intro text included
  simp only [List.mem_cons, List.not_mem_nil, or_false] at included
  rcases included with rfl | rfl | rfl | rfl | rfl
  · exact spelledFrom_join ['b'] (by decide)
  · exact spelledFrom_join ['b'] (by decide)
  · exact ⟨origin, by decide, by decide, by decide⟩
  · exact ⟨origin, by decide, by decide, by decide⟩
  · exact spelledFrom_join ['b'] (by decide)

/-- A directory that is included by its path and by a glob is scanned under two spellings. -/
theorem glob_scans_twice :
    let tree : FileTree := ⟨[(["src".toList], .directory),
      (["src".toList, "A.java".toList], .file (.text ['x']))]⟩
    let options : ScanOptions := ⟨["src".toList, "s*".toList], [], false⟩
    tree.IsNamed ∧ "./src/A.java".toList ∈ (run tree ['.'] options).files ∧
      "src/A.java".toList ∈ (run tree ['.'] options).files ∧
      Path.destination "./src/A.java".toList = Path.destination "src/A.java".toList :=
  ⟨by decide, mem_files.mpr (by decide +kernel), mem_files.mpr (by decide +kernel), by decide⟩

end Once

end Scan

end MessageKeys
