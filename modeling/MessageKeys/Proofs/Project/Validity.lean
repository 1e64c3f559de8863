import MessageKeys.Project.Basic
import MessageKeys.Proofs.Glob.Grammar
import MessageKeys.Proofs.Reference.Automaton

/-!
What a valid configuration can still fail on.

Validation reads each glob as one pattern and compiles each annotation pattern. Opening a project
cuts the globs into components and makes automata for the methods. So a project with a valid
configuration is opened, unless one of its globs has a slash in brackets, which falls apart when it
is cut (`load_of_valid`), or a method's name is beyond the size that automata may have
(`ofPatterns_of_valid`). In both cases the first such glob or name is told: `valid_patterns_hold`.
-/
namespace MessageKeys

/-- Whether a slash stands in brackets of a glob. -/
def Glob.bracketsSlash (glob : Text) : Bool :=
  (GlobPattern.ofText glob).toOption.any (·.bracketsSlash)

/-- Whether a method's name, without blanks around it, takes too large automata. -/
def Call.isTooLong (text : Text) : Bool :=
  let nameSize := Text.size (Text.trim text)
  (Regex.callAutomaton? .forward nameSize).isNone ||
    (Regex.callAutomaton? .backward nameSize).isNone

namespace Config

/-- The first glob for properties files with a slash in brackets. -/
def slashedGlob? (config : Config) : Option Text :=
  config.propertyFileGlobs.find? Glob.bracketsSlash

/-- The first method whose name is too long. -/
def longMethod? (config : Config) : Option Text := config.methods.find? Call.isTooLong

section Validation

variable {config : Config}

theorem read_of_checkGlobs {fault : Text → GlobError → Fault} {globs : List Text}
    (checked : checkGlobs fault globs = .ok ()) {glob : Text} (member : glob ∈ globs) :
    ∃ pattern, GlobPattern.ofText glob = .ok pattern := by
  induction globs with
  | nil => cases member
  | cons first more ih =>
    rw [checkGlobs] at checked
    split at checked
    · cases checked
    · next pattern read =>
      rcases List.mem_cons.mp member with rfl | later
      · exact ⟨pattern, read⟩
      · exact ih checked later

theorem compile_of_checkAnnotations {annotations : List Text}
    (checked : checkAnnotations annotations = .ok ()) :
    ∃ regexes, Matcher.compile annotations = .ok regexes := by
  induction annotations with
  | nil => exact ⟨[], rfl⟩
  | cons pattern more ih =>
    rw [checkAnnotations] at checked
    split at checked
    · cases checked
    · next regex read =>
      obtain ⟨regexes, compiled⟩ := ih checked
      exact ⟨regex :: regexes, by rw [Matcher.compile, read]; simp [compiled, Except.map]⟩

/-- What validation says about the globs for properties files and the annotation patterns. -/
theorem checked_of_validate (valid : config.validate = .ok ()) :
    checkGlobs .propertyFileGlob config.propertyFileGlobs = .ok () ∧
      checkAnnotations config.annotations = .ok () := by
  unfold validate at valid
  cases ignores : checkGlobs .ignore config.ignores with
  | error fault => simp [ignores, bind, Except.bind] at valid
  | ok _ =>
    cases includes : checkGlobs .inclusion (config.includes.filter GlobPattern.hasWildcard) with
    | error fault => simp [ignores, includes, bind, Except.bind] at valid
    | ok _ =>
      cases globs : checkGlobs .propertyFileGlob config.propertyFileGlobs with
      | error fault => simp [ignores, includes, globs, bind, Except.bind] at valid
      | ok _ =>
        simp only [ignores, includes, globs, bind, Except.bind] at valid
        exact ⟨rfl, valid⟩

end Validation

end Config

/-- A result that fails exactly if there is a fault, with an error that tells it. -/
def FailsOnlyAt {ε α β : Type} (fault? : Option β) (tells : ε → β → Prop) (result : Except ε α) :
    Prop :=
  match fault? with
  | some fault => ∃ error, result = .error error ∧ tells error fault
  | none => ∃ value, result = .ok value

theorem FailsOnlyAt.map {ε α α' β : Type} {fault? : Option β} {tells : ε → β → Prop}
    {result : Except ε α} (fails : FailsOnlyAt fault? tells result) (f : α → α') :
    FailsOnlyAt fault? tells (result.map f) := by
  cases fault? with
  | some fault =>
    obtain ⟨error, failed, told⟩ := fails
    exact ⟨error, by rw [failed]; rfl, told⟩
  | none =>
    obtain ⟨value, found⟩ := fails
    exact ⟨f value, by rw [found]; rfl⟩

/-- The globs of a root lead to files unless one of them has a slash in brackets. -/
theorem Properties.matchingFiles_of_read {globs : List Text} (tree : FileTree) (root : Path)
    (read : ∀ glob ∈ globs, ∃ pattern, GlobPattern.ofText glob = .ok pattern) :
    FailsOnlyAt (globs.find? Glob.bracketsSlash) (fun error glob => error.glob = glob)
      (matchingFiles tree root globs) := by
  induction globs with
  | nil => exact ⟨[], rfl⟩
  | cons glob more ih =>
    rw [List.forall_mem_cons] at read
    obtain ⟨⟨pattern, here⟩, later⟩ := read
    have walks := Glob.exists_walk_under_iff here tree root
    have slashed : Glob.bracketsSlash glob = pattern.bracketsSlash := by
      rw [Glob.bracketsSlash, here]
      rfl
    rw [matchingFiles, List.find?_cons, slashed]
    cases walked : Glob.walk tree (Glob.under root glob) with
    | error cause =>
      have found : pattern.bracketsSlash = true := by
        rw [← Bool.not_eq_false, ← walks, walked]
        simp
      rw [found]
      exact ⟨_, rfl, rfl⟩
    | ok places =>
      rw [walks.mp ⟨places, walked⟩]
      exact (ih later).map _

theorem Call.isTooLong_eq_false {text : Text} (short : Text.size (Text.trim text) ≤ shortName) :
    isTooLong text = false := by
  unfold isTooLong
  simp [Option.isNone_eq_false_iff, Regex.isSome_callAutomaton? _ short]

/-- The names of methods are accepted unless one of them is too long. -/
theorem Matcher.checkMethods_eq (methods : List Text) :
    checkMethods methods =
      match methods.find? Call.isTooLong with
      | some name => .error ⟨name⟩
      | none => .ok () := by
  induction methods with
  | nil => rfl
  | cons text more ih =>
    have refused : (Call.MethodName.ofText? text).all (·.fits) = !Call.isTooLong text := by
      unfold Call.MethodName.ofText?
      split
      · rw [Option.all_some, Call.MethodName.fits_eq, Call.isTooLong]
        simp
      · next blank =>
        rw [ne_eq, not_not] at blank
        rw [Option.all_none, Call.isTooLong_eq_false (by rw [blank]; decide)]
        rfl
    rw [checkMethods, refused, ih, List.find?_cons]
    cases Call.isTooLong text <;> rfl

/-- How far the patterns of a configuration hold, in a tree and from a root. -/
structure Config.PatternsHold (config : Config) (tree : FileTree) (root : Path) : Prop where
  /-- Only a slash in brackets makes a glob for properties files invalid. -/
  properties : FailsOnlyAt config.slashedGlob? (fun error glob => error.glob = glob)
    (Properties.load tree root config.propertyFileGlobs)
  /-- Only a name that is too long makes a method invalid, and no annotation pattern is. -/
  references : FailsOnlyAt config.longMethod? (fun error name => error = .method ⟨name⟩)
    (Matcher.ofPatterns config.methods config.annotations)
  /-- A name that is too long has more bytes than a short one. -/
  long : ∀ name, config.longMethod? = some name → shortName < Text.size (Text.trim name)
  /-- Nothing else keeps a project from being opened with the configuration. -/
  opening : ∀ (choice : ProjectChoice) (loaded : Config.Loaded), choice.root = root →
    Config.load tree root = .ok loaded → choice.override loaded.config = config →
      match config.slashedGlob?, config.longMethod? with
      | some glob, _ => ∃ cause,
          (Project.load tree choice).project = .error (.glob ⟨glob, cause⟩)
      | none, some name =>
          (Project.load tree choice).project = .error (.pattern (.method ⟨name⟩))
      | none, none => ∃ project, (Project.load tree choice).project = .ok project

section Valid

variable {config : Config}

theorem load_of_valid (valid : config.validate = .ok ()) (tree : FileTree) (root : Path) :
    FailsOnlyAt config.slashedGlob? (fun error glob => error.glob = glob)
      (Properties.load tree root config.propertyFileGlobs) := by
  have read (glob : Text) (member : glob ∈ config.propertyFileGlobs) :=
    Config.read_of_checkGlobs (Config.checked_of_validate valid).1 member
  exact ((Properties.matchingFiles_of_read tree root read).map _).map _

theorem ofPatterns_of_valid (valid : config.validate = .ok ()) :
    FailsOnlyAt config.longMethod? (fun error name => error = .method ⟨name⟩)
      (Matcher.ofPatterns config.methods config.annotations) := by
  obtain ⟨regexes, compiled⟩ :=
    Config.compile_of_checkAnnotations (Config.checked_of_validate valid).2
  have implicitFits : [Matcher.implicitMethod].find? Call.isTooLong = none := by
    rw [List.find?_singleton, Call.isTooLong_eq_false (by decide)]
    rfl
  unfold Matcher.ofPatterns
  rw [Matcher.checkMethods_eq, List.find?_append, implicitFits, Option.or_none, Config.longMethod?]
  cases config.methods.find? Call.isTooLong with
  | some name => exact ⟨_, rfl, rfl⟩
  | none => exact ⟨_, by rw [Matcher.ofTexts, compiled]; rfl⟩

theorem long_of_longMethod? {name : Text} (found : config.longMethod? = some name) :
    shortName < Text.size (Text.trim name) := by
  by_contra short
  have tooLong := List.find?_some found
  rw [Call.isTooLong_eq_false (Nat.le_of_not_lt short)] at tooLong
  cases tooLong

end Valid

/-- The patterns of a valid configuration hold, but for slashes in brackets and names of methods
that are too long. -/
theorem valid_patterns_hold (tree : FileTree) (root : Path) (config : Config)
    (valid : config.validate = .ok ()) : config.PatternsHold tree root where
  properties := load_of_valid valid tree root
  references := ofPatterns_of_valid valid
  long _ found := long_of_longMethod? found
  opening := by
    rintro choice loaded rfl read rfl
    have properties := load_of_valid valid tree choice.root
    have references := ofPatterns_of_valid valid
    simp only [Project.load, read, valid, Project.assemble]
    -- The properties files are loaded before the matcher is made.
    cases slashed : (choice.override loaded.config).slashedGlob? with
    | some glob =>
      rw [slashed] at properties
      obtain ⟨⟨_, cause⟩, failed, rfl⟩ := properties
      exact ⟨cause, by simp only [failed]⟩
    | none =>
      rw [slashed] at properties
      obtain ⟨_, found⟩ := properties
      cases long : (choice.override loaded.config).longMethod? with
      | some name =>
        rw [long] at references
        obtain ⟨_, failed, rfl⟩ := references
        simp only [found, failed]
      | none =>
        rw [long] at references
        obtain ⟨_, made⟩ := references
        simp only [found, made]
        exact ⟨_, rfl⟩

/-- Two globs with brackets, the second of which has a slash in them. -/
theorem valid_patterns_hold_inBrackets :
    let config := { Config.default with
      propertyFileGlobs := ["[a-z]*/m.properties".toList, "a[!/]b".toList] }
    config.validate = .ok () ∧ config.slashedGlob? = some "a[!/]b".toList ∧
      config.PatternsHold ⟨[]⟩ ['.'] :=
  ⟨by decide, by decide, valid_patterns_hold _ _ _ (by decide)⟩

/-- A configuration that passes validation can fail on a glob later. -/
theorem valid_glob_falls_apart :
    let tree : FileTree := ⟨[(["m.properties".toList], .file (.text "x=1\n".toList))]⟩
    let choice : ProjectChoice := ⟨['.'], [], ["a[/]b".toList]⟩
    (choice.override Config.default).validate = .ok () ∧
      Config.load tree choice.root = .ok ⟨Config.default, false⟩ ∧
      ∃ error, (Project.load tree choice).project = .error error ∧
        error.message = "Invalid properties glob: a[/]b".toList :=
  ⟨by decide, by decide, .glob ⟨"a[/]b".toList, ⟨1, .range⟩⟩, by rfl, by decide⟩

end MessageKeys
