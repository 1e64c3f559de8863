import Mathlib.Data.Finset.Card
import MessageKeys.Proofs.Distinct
import MessageKeys.Proofs.Sorting
import MessageKeys.Properties.Catalog

/-!
A catalog against the history of its insertions.

The history lists all definitions that were ever inserted, shadowed ones included, and only grows.
After any steps the definitions of the catalog are those of the history with repetitions of a key
left out (`Refines`): each step keeps that (`Refines.act`), and so does a run (`refines_after`). All
that can be asked of a catalog is then read off from the history (`catalog_mirrors_history`).
-/
namespace MessageKeys

theorem Text.hasPart_nil (text : Text) : Text.hasPart [] text = true := by
  cases text <;> rfl

namespace Catalog

/-- A step in the use of a catalog: a change or a question. -/
inductive Step where
  | addFile (file : Text)
  | insert (entry : Entry)
  | extend (entries : List Entry)
  | load (file content : Text)
  | get (key : Text)
  | contains (key : Text)
  | template (key : Text)
  | keys
  | search (filter : Text)
  deriving DecidableEq, Repr

namespace Step

/-- What a step leaves of a catalog. -/
def act (catalog : Catalog) : Step → Catalog
  | addFile file => catalog.addFile file
  | insert entry => (catalog.tryInsert entry).1
  | extend entries => catalog.extend entries
  | load file content => catalog.load file content
  | get _ | contains _ | template _ | keys | search _ => catalog

/-- The definitions that a step inserts. -/
def inserted : Step → List Entry
  | insert entry => [entry]
  | extend entries => entries
  | load file content => Properties.parse content file
  | addFile _ | get _ | contains _ | template _ | keys | search _ => []

end Step

/-- The catalog after steps that begin with an empty one. -/
def after (steps : List Step) : Catalog := steps.foldl Step.act empty

/-- All definitions that steps insert, in their order. -/
def history (steps : List Step) : List Entry := steps.flatMap Step.inserted

/-- The first definition of a key. -/
def first? (history : List Entry) (key : Text) : Option Entry :=
  history.find? fun entry => entry.key == key

/-- What a catalog tells about the history of its insertions. -/
structure Mirrors (catalog : Catalog) (history : List Entry) : Prop where
  /-- A definition is added unless one of its key was inserted before. -/
  insert : ∀ entry,
    (catalog.tryInsert entry).2 = true ↔ ∀ earlier ∈ history, earlier.key ≠ entry.key
  get : ∀ key, catalog.get? key = first? history key
  template : ∀ key, catalog.template? key = (first? history key).map (·.value)
  contains : ∀ key, catalog.contains key = (first? history key).isSome
  size : catalog.size = (history.map (·.key)).toFinset.card
  keys_increasing : Increasing compare catalog.keys
  mem_keys : ∀ key, key ∈ catalog.keys ↔ key ∈ history.map (·.key)
  search_increasing : Increasing (compareOn Entry.key) (catalog.search [])
  /-- Without a filter all definitions are found that no earlier one shadows. -/
  mem_search : ∀ entry, entry ∈ catalog.search [] ↔ first? history entry.key = some entry
  search_sublist : ∀ filter, (catalog.search filter).Sublist (catalog.search [])

/-! ## What the steps keep -/

/-- The definitions of a catalog are the first ones of their keys in a history. -/
def Refines (catalog : Catalog) (history : List Entry) : Prop :=
  catalog.entries = distinctBy Entry.key [] history

variable {catalog : Catalog} {log : List Entry}

theorem Refines.get? (refines : Refines catalog log) (key : Text) :
    catalog.get? key = first? log key := by
  rw [Catalog.get?, refines]
  exact find?_distinctBy List.not_mem_nil log

theorem first?_isSome_iff (log : List Entry) (key : Text) :
    (first? log key).isSome ↔ key ∈ log.map (·.key) := by
  simp [first?]

theorem Refines.contains_iff (refines : Refines catalog log) (key : Text) :
    catalog.contains key ↔ key ∈ log.map (·.key) := by
  rw [contains, refines.get?, first?_isSome_iff]

theorem Refines.insert (refines : Refines catalog log) (entry : Entry) :
    Refines (catalog.insert entry) (log ++ [entry]) := by
  have known := refines.contains_iff entry.key
  unfold Refines at refines ⊢
  rw [distinctBy_concat, Catalog.insert]
  by_cases defined : catalog.contains entry.key
  · rw [if_pos defined, if_pos (.inr (known.mp defined)), List.append_nil]
    exact refines
  · rw [if_neg defined, if_neg (by simpa using mt known.mpr defined), refines]

theorem Refines.extend (refines : Refines catalog log) (entries : List Entry) :
    Refines (catalog.extend entries) (log ++ entries) := by
  induction entries generalizing catalog log with
  | nil =>
    rw [List.append_nil]
    exact refines
  | cons entry more ih =>
    rw [List.append_cons]
    exact ih (refines.insert entry)

/-- A step keeps to the history. -/
theorem Refines.act (refines : Refines catalog log) (step : Step) :
    Refines (step.act catalog) (log ++ step.inserted) := by
  have unchanged : Refines catalog (log ++ []) := by
    rw [List.append_nil]
    exact refines
  cases step with
  | insert entry => exact refines.insert entry
  | extend entries => exact refines.extend entries
  | load file content =>
    have remembered : Refines (catalog.addFile file) log := refines
    exact remembered.extend _
  | addFile file => exact unchanged
  | get key => exact unchanged
  | contains key => exact unchanged
  | template key => exact unchanged
  | keys => exact unchanged
  | search filter => exact unchanged

theorem refines_foldl (refines : Refines catalog log) (steps : List Step) :
    Refines (steps.foldl Step.act catalog) (log ++ history steps) := by
  induction steps generalizing catalog log with
  | nil =>
    rw [history, List.flatMap_nil, List.append_nil]
    exact refines
  | cons step more ih =>
    rw [history, List.flatMap_cons, ← List.append_assoc]
    exact ih (refines.act step)

/-- A run keeps to the history. -/
theorem refines_after (steps : List Step) : Refines (after steps) (history steps) :=
  refines_foldl (show Refines empty [] from rfl) steps

/-! ## What a catalog answers -/

theorem Refines.nodup_keys (refines : Refines catalog log) :
    (catalog.entries.map (·.key)).Nodup := by
  rw [refines]
  exact (nodup_distinctBy Entry.key [] log).1

theorem Refines.mem_entry_keys (refines : Refines catalog log) (key : Text) :
    key ∈ catalog.entries.map (·.key) ↔ key ∈ log.map (·.key) := by
  rw [refines]
  exact mem_map_distinctBy

theorem Refines.size (refines : Refines catalog log) :
    catalog.size = (log.map (·.key)).toFinset.card := by
  have same : (log.map (·.key)).toFinset = (catalog.entries.map (·.key)).toFinset := by
    ext key
    rw [List.mem_toFinset, List.mem_toFinset, refines.mem_entry_keys]
  rw [same, List.toFinset_card_of_nodup refines.nodup_keys, List.length_map]
  rfl

theorem Refines.keys_increasing (refines : Refines catalog log) :
    Increasing compare catalog.keys := by
  refine increasing_mergeSort (refines.nodup_keys.imp ?_)
  intro key other different tied
  exact different (Std.LawfulEqOrd.eq_of_compare tied)

/-- Whatever is searched for, the definitions found are in the order of their keys. -/
theorem Refines.search_increasing (refines : Refines catalog log) (filter : Text) :
    Increasing (compareOn Entry.key) (catalog.search filter) := by
  have apart : catalog.entries.Pairwise fun a b => compareOn Entry.key a b ≠ .eq := by
    refine (List.pairwise_map.mp refines.nodup_keys).imp ?_
    intro a b different tied
    exact different (Std.LawfulEqOrd.eq_of_compare tied)
  exact increasing_mergeSort (apart.filter _)

theorem mem_search_iff (catalog : Catalog) (filter : Text) (entry : Entry) :
    entry ∈ catalog.search filter ↔ entry ∈ catalog.entries ∧
      Text.hasPart (Text.lowercase filter) (Text.lowercase entry.key) = true := by
  rw [search, List.mem_mergeSort, List.mem_filter]

theorem mem_search_nil (catalog : Catalog) (entry : Entry) :
    entry ∈ catalog.search [] ↔ entry ∈ catalog.entries := by
  rw [mem_search_iff]
  exact and_iff_left (Text.hasPart_nil _)

/-- A search without a filter finds the definitions that are the first of their keys. -/
theorem Refines.mem_search_nil_iff (refines : Refines catalog log) (entry : Entry) :
    entry ∈ catalog.search [] ↔ first? log entry.key = some entry := by
  rw [mem_search_nil, ← refines.get?]
  constructor
  · intro member
    obtain ⟨found, held⟩ : ∃ found, catalog.get? entry.key = some found := by
      rw [← Option.isSome_iff_exists, Catalog.get?, List.find?_isSome]
      exact ⟨entry, member, by simp⟩
    have sameKey : found.key = entry.key := by simpa using List.find?_some held
    rw [held, List.inj_on_of_nodup_map refines.nodup_keys (List.mem_of_find?_eq_some held) member
      sameKey]
  · intro held
    exact List.mem_of_find?_eq_some held

/-- A search finds some of all definitions, in the same order. -/
theorem Refines.search_sublist (refines : Refines catalog log) (filter : Text) :
    (catalog.search filter).Sublist (catalog.search []) := by
  let fits := fun entry : Entry => Text.hasPart (Text.lowercase filter) (Text.lowercase entry.key)
  have chosen : catalog.search filter = (catalog.search []).filter fits := by
    refine eq_of_increasing (refines.search_increasing filter)
      ((refines.search_increasing []).filter fits) ?_
    intro entry
    rw [List.mem_filter, mem_search_nil, mem_search_iff]
  rw [chosen]
  exact List.filter_sublist

/-- After any steps a catalog tells the history of its insertions. -/
theorem catalog_mirrors_history (steps : List Step) : Mirrors (after steps) (history steps) := by
  have refines := refines_after steps
  refine
    { insert := ?_, get := refines.get?, template := ?_, contains := ?_, size := refines.size,
      keys_increasing := refines.keys_increasing, mem_keys := ?_,
      search_increasing := refines.search_increasing [],
      mem_search := refines.mem_search_nil_iff, search_sublist := refines.search_sublist }
  · intro entry
    have known := refines.contains_iff entry.key
    rw [tryInsert, Bool.not_eq_true', ← Bool.not_eq_true, known]
    simp
  · intro key
    rw [template?, refines.get?]
  · intro key
    rw [contains, refines.get?]
  · intro key
    rw [keys, List.mem_mergeSort, refines.mem_entry_keys]

end Catalog

end MessageKeys
