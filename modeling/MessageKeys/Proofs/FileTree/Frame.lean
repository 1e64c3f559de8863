import Mathlib.Data.List.Infix
import MessageKeys.Proofs.FileTree.Saving

/-!
What a save leaves as it was.

Making room for a file does nothing but put directories in empty places (`makeRoom_invariant`). It
changes no file (`sameFiles_makeRoom`) and takes no route away (`keeps_makeRoom`), so that a save
that fails changes no file either, and one that succeeds changes the file that the path leads to
afterwards (`save_uniform`, `save_cases`). Afterwards: a path that goes up again from a directory
which is made on the way leads nowhere before the save, whatever stands in the place that it leads
to then. A path that goes nowhere up leads to a place where nothing stood (`pathExists_of_leads`,
`textAt?_of_leads`).
-/
namespace MessageKeys

namespace FileTree

/-- What the file at a route holds. -/
def contentAt? (tree : FileTree) (route : Route) : Option Content :=
  match tree.at? route with
  | some (.file content) => some content
  | some .directory => none
  | none => none

theorem at?_of_contentAt? {tree : FileTree} {route : Route} {content : Content}
    (held : tree.contentAt? route = some content) : tree.at? route = some (.file content) := by
  unfold contentAt? at held
  split at held
  · next found =>
    cases held
    exact found
  · cases held
  · cases held

/-- The text of the file at a route, a missing file being empty; bytes that encode no text are
none. -/
def textAt? (tree : FileTree) (route : Route) : Option Text :=
  match tree.contentAt? route with
  | none => some []
  | some (.text text) => some text
  | some (.binary _) => none

/-- All files hold what they held, and there are no others. -/
def SameFiles (tree left : FileTree) : Prop :=
  ∀ route, left.contentAt? route = tree.contentAt? route

/-- A directory in an empty place changes no file. -/
theorem sameFiles_put_directory {tree : FileTree} {route : Route}
    (inside : Route.isAbove route = false) (free : tree.at? route = none) :
    SameFiles tree (tree.put route .directory) := by
  intro other
  unfold contentAt?
  rw [at?_put tree inside]
  by_cases same : other = route
  · rw [if_pos same, same, free]
  · rw [if_neg same]

/-- What holds of a tree, and of every tree with a directory more in an empty place, holds when the
directories of a path have been made. -/
theorem makeDirectories_invariant {P : FileTree → Prop}
    (grows : ∀ grown route, Route.isAbove route = false → grown.at? route = none →
      P grown → P (grown.put route .directory))
    {tree : FileTree} (held : P tree) (route : Route) (pieces : List Text) :
    P (tree.makeDirectories route pieces).1 := by
  induction pieces generalizing tree route with
  | nil => exact held
  | cons piece rest ih =>
    unfold makeDirectories
    split
    · exact ih held route
    · split
      · exact ih held _
      next down =>
        split
        · exact held
        · split
          · exact ih held _
          · exact held
          next free => exact ih (grows tree _ (isAbove_concat down) free held) _

/-- What holds of a tree, and of every tree with a directory more in an empty place, holds when room
has been made for a file. -/
theorem makeRoom_invariant {P : FileTree → Prop}
    (grows : ∀ grown route, Route.isAbove route = false → grown.at? route = none →
      P grown → P (grown.put route .directory))
    {tree : FileTree} (held : P tree) (path : Path) :
    P (Properties.makeRoom tree path).1 := by
  unfold Properties.makeRoom makeDirectory
  split
  · exact held
  · dsimp only
    split
    · split <;> exact held
    · exact makeDirectories_invariant grows held [] _

theorem sameFiles_makeRoom (tree : FileTree) (path : Path) :
    SameFiles tree (Properties.makeRoom tree path).1 := by
  refine makeRoom_invariant ?_ (fun _ => rfl) path
  intro grown route inside free same other
  rw [sameFiles_put_directory inside free, same]

theorem Keeps.refl (tree : FileTree) : Keeps tree tree := fun _ node found => ⟨node, found, rfl⟩

theorem Keeps.trans {tree grown left : FileTree} (keeps : Keeps tree grown)
    (further : Keeps grown left) : Keeps tree left := by
  intro route node found
  obtain ⟨other, there, same⟩ := keeps route node found
  obtain ⟨last, stands, alike⟩ := further route other there
  exact ⟨last, stands, alike.trans same⟩

/-- A directory in an empty place leaves all routes. -/
theorem keeps_put_directory {tree : FileTree} {route : Route}
    (inside : Route.isAbove route = false) (free : tree.at? route = none) :
    Keeps tree (tree.put route .directory) := by
  intro other node found
  rw [at?_put tree inside]
  by_cases same : other = route
  · rw [same, free] at found
    cases found
  · exact ⟨node, by rw [if_neg same, found], rfl⟩

theorem keeps_makeRoom (tree : FileTree) (path : Path) :
    Keeps tree (Properties.makeRoom tree path).1 := by
  refine makeRoom_invariant ?_ (.refl tree) path
  intro grown route inside free keeps
  exact keeps.trans (keeps_put_directory inside free)

/-- What a save does. Its content does not matter for whether it fails, and what it fails with. -/
theorem save_uniform (tree : FileTree) (path : Path) :
    (∃ left error, SameFiles tree left ∧ Keeps tree left ∧
      ∀ content, Properties.save tree path content = (left, some error)) ∨
    ∃ roomy front name, SameFiles tree roomy ∧ Keeps tree roomy ∧ Leads roomy path front name ∧
      roomy.at? (front ++ [name]) ≠ some .directory ∧
      ∀ content, Properties.save tree path content =
        (roomy.put (front ++ [name]) (.file (.text content)), none) := by
  have same := sameFiles_makeRoom tree path
  have keeps := keeps_makeRoom tree path
  unfold Properties.save
  rcases made : Properties.makeRoom tree path with ⟨roomy, error?⟩
  rw [made] at same keeps
  cases error? with
  | some error => exact .inl ⟨roomy, error, same, keeps, fun _ => rfl⟩
  | none =>
    rcases write_uniform roomy path with ⟨cause, failed⟩ | ⟨front, name, leads, free, written⟩
    · exact .inl ⟨roomy, .unwritable path cause, same, keeps, fun content => by simp only [failed]⟩
    · exact .inr ⟨roomy, front, name, same, keeps, leads, free, fun content => by
        simp only [written]⟩

/-- A save fails and changes no file, or it changes the file that the path leads to afterwards and
no other. -/
theorem save_cases (tree : FileTree) (path : Path) (content : Text) :
    (∃ left error, Properties.save tree path content = (left, some error) ∧ SameFiles tree left) ∨
      ∃ left front name, Properties.save tree path content = (left, none) ∧
        Leads left path front name ∧
        left.contentAt? (front ++ [name]) = some (.text content) ∧
        ∀ other, other ≠ front ++ [name] → left.contentAt? other = tree.contentAt? other := by
  rcases save_uniform tree path with
    ⟨left, error, same, _, failed⟩ | ⟨roomy, front, name, same, _, leads, free, saved⟩
  · exact .inl ⟨left, error, failed content, same⟩
  · have inside : Route.isAbove (front ++ [name]) = false := isAbove_concat leads.down
    refine .inr ⟨_, front, name, saved content, leads.keeps (keeps_put roomy inside _ free), ?_, ?_⟩
    · rw [contentAt?, at?_put roomy inside, if_pos rfl]
    · intro other elsewhere
      rw [contentAt?, at?_put roomy inside, if_neg elsewhere]
      exact same other

/-- What a save that succeeds has changed. -/
theorem leads_of_save {tree left : FileTree} {path : Path} {content : Text}
    (saved : Properties.save tree path content = (left, none)) :
    ∃ front name, Leads left path front name ∧
      left.contentAt? (front ++ [name]) = some (.text content) ∧
      ∀ other, other ≠ front ++ [name] → left.contentAt? other = tree.contentAt? other := by
  rcases save_cases tree path content with
    ⟨_, _, failed, _⟩ | ⟨_, front, name, done, leads, held, others⟩
  · rw [saved] at failed
    cases failed
  · rw [saved] at done
    cases done
    exact ⟨front, name, leads, held, others⟩

/-- What has been saved is read back. -/
theorem readText_save {tree left : FileTree} {path : Path} {content : Text}
    (saved : Properties.save tree path content = (left, none)) :
    left.readText path = .ok content := by
  obtain ⟨_, _, leads, held, _⟩ := leads_of_save saved
  exact leads.readText (at?_of_contentAt? held)

/-! ## Paths that go nowhere up -/

/-- Everything lies in directories only. -/
def WellFormed (tree : FileTree) : Prop :=
  ∀ route node, tree.at? route = some node → Settled tree route

/-- It is enough that what is listed lies in directories. -/
theorem wellFormed_of_entries {tree : FileTree}
    (settled : ∀ entry ∈ tree.entries, ∀ front ∈ entry.1.inits,
      front ≠ entry.1 → tree.at? front = some .directory) : WellFormed tree := by
  intro route node found front inside proper
  by_cases above : Route.isAbove route = true
  · apply at?_of_isAbove
    rw [Route.isAbove, List.all_eq_true] at above ⊢
    exact fun name member => above name (inside.subset member)
  · rw [at?, if_neg above, List.lookup_eq_some_iff] at found
    obtain ⟨before, after, listed, _⟩ := found
    have member : (route, node) ∈ tree.entries := by simp [listed]
    exact settled _ member front ((List.mem_inits _ _).mpr inside) proper

theorem StepsTo.isPrefix {tree : FileTree} {route next : Route} {piece : Text}
    (step : StepsTo tree route piece next) (plain : piece ≠ upwards) : route <+: next := by
  cases step with
  | stay silent => exact List.prefix_refl route
  | up loud up => exact absurd up plain
  | down loud down short node found => exact List.prefix_append route [piece]

/-- A path that goes nowhere up leads further down. -/
theorem prefix_of_follow {tree : FileTree} {route last : Route} {pieces : List Text}
    (plain : upwards ∉ pieces) (followed : tree.follow route pieces = .ok last) :
    route <+: last := by
  induction pieces generalizing route with
  | nil =>
    cases followed
    exact List.prefix_refl _
  | cons piece rest ih =>
    rw [List.mem_cons, not_or] at plain
    obtain ⟨_, next, step, onward⟩ := follow_cons_eq_ok.mp followed
    exact (step.isPrefix (Ne.symm plain.1)).trans (ih plain.2 onward)

/-- The way that leads to a directory in one tree leads to it in another one in which it lies in
directories. -/
theorem follow_of_settled {tree other : FileTree} {route last : Route} {pieces : List Text}
    (plain : upwards ∉ pieces) (followed : other.follow route pieces = .ok last)
    (settled : Settled tree last) (directory : tree.at? last = some .directory) :
    tree.follow route pieces = .ok last := by
  have onTheWay : ∀ place, place <+: last → tree.at? place = some .directory := by
    intro place inside
    by_cases whole : place = last
    · rw [whole]
      exact directory
    · exact settled place inside whole
  induction pieces generalizing route with
  | nil => exact followed
  | cons piece rest ih =>
    have here := onTheWay route (prefix_of_follow plain followed)
    rw [List.mem_cons, not_or] at plain
    obtain ⟨_, next, step, onward⟩ := follow_cons_eq_ok.mp followed
    have below := onTheWay next (prefix_of_follow plain.2 onward)
    have steps : StepsTo tree route piece next := by
      cases step with
      | stay silent => exact .stay silent
      | up loud up => exact .up loud up
      | down loud down short node found => exact .down loud down short _ below
    exact follow_cons_eq_ok.mpr ⟨here, next, steps, ih plain.2 onward⟩

/-- Where a path that goes nowhere up leads after a save, nothing stood if it led nowhere before. -/
theorem pathExists_of_leads {tree left : FileTree} {path : Path} {front : Route} {name : Text}
    {node : Node} (wellFormed : WellFormed tree) (plain : upwards ∉ Path.pieces path)
    (leads : Leads left path front name) (stood : tree.at? (front ++ [name]) = some node) :
    tree.pathExists path = true := by
  have settled := wellFormed _ _ stood
  have directory : tree.at? front = some .directory :=
    settled front (List.prefix_append _ _) (by simp)
  obtain ⟨pieces, shape, followed⟩ := leads.front
  have there : tree.follow [] pieces = .ok front := by
    apply follow_of_settled _ followed (wellFormed _ _ directory) directory
    intro up
    exact plain (shape ▸ List.mem_append_left _ up)
  have before : Leads tree path front name :=
    ⟨leads.checked, ⟨pieces, shape, there⟩, directory, leads.loud, leads.down, leads.short⟩
  simp [pathExists, node?, before.resolve stood, stood]

/-- A path that goes nowhere up did not exist only if nothing stood in its place. -/
theorem textAt?_of_leads {tree left : FileTree} {path : Path} {front : Route} {name : Text}
    (wellFormed : WellFormed tree) (plain : upwards ∉ Path.pieces path)
    (missing : ¬tree.pathExists path = true) (leads : Leads left path front name) :
    tree.textAt? (front ++ [name]) = some [] := by
  cases stood : tree.at? (front ++ [name]) with
  | none => simp [textAt?, contentAt?, stood]
  | some node => exact absurd (pathExists_of_leads wellFormed plain leads stood) missing

end FileTree

/-- A directory with one properties file. -/
def oneFile (content : String) : FileTree :=
  ⟨[(["m.properties".toList], .file (.text content.toList))]⟩

theorem wellFormed_oneFile (content : String) : (oneFile content).WellFormed := by
  apply FileTree.wellFormed_of_entries
  intro entry member front inside proper
  rw [oneFile, List.mem_singleton] at member
  subst member
  rw [List.mem_inits, List.prefix_cons_iff] at inside
  rcases inside with rfl | ⟨rest, rfl, empty⟩
  · rfl
  · exact absurd (by rw [List.prefix_nil.mp empty]) proper

end MessageKeys
