import MessageKeys.Proofs.Properties.History
import MessageKeys.Proofs.Text.LetterCase

/-!
Searching a catalog for a part of a key.

A search compares the filter with the keys after both are lower-cased as a whole. A key that holds
some spelling of the filter is found if the spelling is lower-cased within the key as it is on its
own, which is so in every key unless the spelling has a loose capital sigma
(`findsHolders_iff`). Without a sigma in the filter nothing can be missed.
-/
namespace MessageKeys.Catalog

/-- Whether a search for the filter finds all definitions, after any steps, whose key holds the
spelling. -/
def FindsHolders (filter spelling : Text) : Prop :=
  ∀ steps, ∀ entry ∈ (after steps).entries, spelling <:+: entry.key →
    entry ∈ (after steps).search filter

theorem mem_search_iff_part (catalog : Catalog) (filter : Text) (entry : Entry) :
    entry ∈ catalog.search filter ↔ entry ∈ catalog.entries ∧
      Text.lowercase filter <:+: Text.lowercase entry.key := by
  rw [mem_search_iff, Text.hasPart_iff]

/-- A spelling without a loose sigma is found in every key that holds it, and only such a one. -/
theorem findsHolders_iff {filter spelling : Text}
    (same : Text.lowercase spelling = Text.lowercase filter) :
    FindsHolders filter spelling ↔ ¬Text.HasLooseSigma spelling := by
  constructor
  · intro finds loose
    -- A catalog with a single key already misses it.
    obtain ⟨key, holds, apart⟩ := loose.exists_text
    let entry : Entry := ⟨key, [], [], 0⟩
    have found := finds [.insert entry] entry (List.mem_singleton_self entry) holds
    rw [mem_search_iff_part, ← same] at found
    exact apart found.2
  · rintro settled steps entry member ⟨front, back, key⟩
    rw [mem_search_iff_part, ← same, ← key, Text.lowercase_append,
      Text.lowercaseBetween_eq settled]
    exact ⟨member, List.infix_append _ _ _⟩

/-- A search gives definitions once and in the order of their keys. It finds all keys that hold some
upper- or lower-case spelling of the filter, if and only if no capital sigma of the spelling is left
loose; so it finds them all if the filter has no sigma. -/
theorem search_finds_spellings (filter : Text) :
    (∀ steps, Increasing (compareOn Entry.key) ((after steps).search filter) ∧
      ((after steps).search filter).Nodup) ∧
    (∀ spelling, Text.lowercase spelling = Text.lowercase filter →
      (FindsHolders filter spelling ↔ ¬Text.HasLooseSigma spelling)) ∧
    ('σ' ∉ Text.lowercase filter → 'ς' ∉ Text.lowercase filter →
      ∀ spelling, Text.lowercase spelling = Text.lowercase filter →
        FindsHolders filter spelling) := by
  refine ⟨?_, fun _ => findsHolders_iff, ?_⟩
  · intro steps
    have increasing := (refines_after steps).search_increasing filter
    exact ⟨increasing, increasing.nodup⟩
  · intro medial final spelling same
    refine (findsHolders_iff same).mpr fun loose => ?_
    have shows := Text.mem_lowercase_of_sigma loose.mem
    rw [same] at shows
    exact shows.elim medial final

/-- A dotted capital has two characters in lower case, and is found by them. -/
theorem search_finds_spellings_dotted :
    let entry : Entry := ⟨"menu.İD".toList, "v".toList, "m.properties".toList, 1⟩
    FindsHolders "i̇d".toList "İD".toList ∧ entry ∈ (after [.insert entry]).search "i̇d".toList := by
  intro entry
  have finds : FindsHolders "i̇d".toList "İD".toList :=
    (search_finds_spellings "i̇d".toList).2.2 (by decide +kernel) (by decide +kernel) "İD".toList
      (by decide +kernel)
  exact ⟨finds, finds [.insert entry] entry (List.mem_singleton_self _)
    ⟨"menu.".toList, [], by decide +kernel⟩⟩

/-- In the middle of a word a capital sigma has another form than at its end, where the filter
ends. -/
theorem search_misses_sigma :
    let entry : Entry := ⟨"ΑΣΒ".toList, "v".toList, "m.properties".toList, 1⟩
    let catalog := after [.insert entry]
    entry ∈ catalog.entries ∧ "ΑΣ".toList <:+: entry.key ∧
      entry ∉ catalog.search "ΑΣ".toList := by
  refine ⟨List.mem_singleton_self _, ⟨[], ['Β'], rfl⟩, ?_⟩
  rw [mem_search_iff]
  decide +kernel

end MessageKeys.Catalog
