import Mathlib.Data.List.Perm.Basic
import MessageKeys.Distinct

/-!
What is left when repetitions are left out: some of the items, at most one with each key, and the
first one with every key that was not seen before.
-/
namespace MessageKeys

variable {α β : Type} [BEq β]

theorem distinctBy_sublist (key : α → β) (seen : List β) (items : List α) :
    (distinctBy key seen items).Sublist items := by
  fun_induction distinctBy key seen items with
  | case1 => exact .slnil
  | case2 seen item more known ih => exact ih.cons item
  | case3 seen item more new ih => exact ih.cons_cons item

variable [LawfulBEq β] {key : α → β}

theorem distinctBy_seen {seen : List β} {items : List α} (known : ∀ item ∈ items, key item ∈ seen) :
    distinctBy key seen items = [] := by
  induction items with
  | nil => rfl
  | cons item more ih =>
    rw [distinctBy, if_pos (by simpa using known item List.mem_cons_self)]
    exact ih fun other member => known other (List.mem_cons_of_mem _ member)

/-- Every key is kept. -/
theorem exists_mem_distinctBy {seen : List β} {items : List α} {item : α} (member : item ∈ items)
    (new : key item ∉ seen) : ∃ other ∈ distinctBy key seen items, key other = key item := by
  fun_induction distinctBy key seen items with
  | case1 => cases member
  | case2 seen first more known ih =>
    rcases List.mem_cons.mp member with rfl | later
    · exact absurd (by simpa using known) new
    · exact ih later new
  | case3 seen first more _ ih =>
    by_cases same : key first = key item
    · exact ⟨first, List.mem_cons_self, same⟩
    · rcases List.mem_cons.mp member with rfl | later
      · exact absurd rfl same
      · have still : key item ∉ key first :: seen := by
          rw [List.mem_cons, not_or]
          exact ⟨Ne.symm same, new⟩
        obtain ⟨other, kept, alike⟩ := ih later still
        exact ⟨other, List.mem_cons_of_mem _ kept, alike⟩

/-- What is left has distinct keys, none of which was seen before. -/
theorem nodup_distinctBy (key : α → β) (seen : List β) (items : List α) :
    ((distinctBy key seen items).map key).Nodup ∧
      ∀ item ∈ distinctBy key seen items, key item ∉ seen := by
  fun_induction distinctBy key seen items with
  | case1 => simp
  | case2 seen item more known ih => exact ih
  | case3 seen item more new ih =>
    have first : key item ∉ seen := by simpa using new
    refine ⟨?_, ?_⟩
    · rw [List.map_cons, List.nodup_cons]
      refine ⟨?_, ih.1⟩
      intro again
      obtain ⟨other, kept, same⟩ := List.mem_map.mp again
      exact ih.2 other kept (by simp [same])
    · intro other member
      rcases List.mem_cons.mp member with rfl | later
      · exact first
      · exact fun known => ih.2 other later (List.mem_cons_of_mem _ known)

theorem mem_map_distinctBy {items : List α} {wanted : β} :
    wanted ∈ (distinctBy key [] items).map key ↔ wanted ∈ items.map key := by
  constructor
  · intro member
    exact ((distinctBy_sublist key [] items).map key).subset member
  · intro member
    obtain ⟨item, inside, rfl⟩ := List.mem_map.mp member
    obtain ⟨other, kept, same⟩ := exists_mem_distinctBy inside (List.not_mem_nil : key item ∉ [])
    exact List.mem_map.mpr ⟨other, kept, same⟩

/-- An item at the end stays if its key is new. -/
theorem distinctBy_concat (key : α → β) (seen : List β) (items : List α) (item : α) :
    distinctBy key seen (items ++ [item]) =
      distinctBy key seen items ++
        if key item ∈ seen ∨ key item ∈ items.map key then [] else [item] := by
  fun_induction distinctBy key seen items with
  | case1 seen => by_cases known : key item ∈ seen <;> simp [distinctBy, known]
  | case2 seen first more known ih =>
    have inside : key first ∈ seen := by simpa using known
    rw [List.cons_append, distinctBy, if_pos known, ih, List.map_cons]
    congr 2
    rw [List.mem_cons, eq_iff_iff]
    constructor
    · rintro (old | later)
      · exact .inl old
      · exact .inr (.inr later)
    · rintro (old | same | later)
      · exact .inl old
      · exact .inl (same ▸ inside)
      · exact .inr later
  | case3 seen first more new ih =>
    rw [List.cons_append, distinctBy, if_neg new, ih, List.map_cons, List.cons_append]
    congr 3
    rw [List.mem_cons, List.mem_cons, or_assoc, or_left_comm]

/-- Items can be left out before repetitions are or after them, if items with one key are left out
together. What was seen before may differ in the keys of items that are left out. -/
theorem distinctBy_filter {keep : α → Bool} {seen others : List β} {items : List α}
    (together : ∀ item ∈ items, ∀ other ∈ items, key item = key other → keep item = keep other)
    (alike : ∀ item ∈ items, keep item = true → (key item ∈ seen ↔ key item ∈ others)) :
    distinctBy key seen (items.filter keep) = (distinctBy key others items).filter keep := by
  induction items generalizing seen others with
  | nil => rfl
  | cons item more ih =>
    have later : ∀ first ∈ more, ∀ second ∈ more, key first = key second →
        keep first = keep second :=
      fun first here second there =>
        together first (List.mem_cons_of_mem _ here) second (List.mem_cons_of_mem _ there)
    have rest : ∀ other ∈ more, keep other = true → (key other ∈ seen ↔ key other ∈ others) :=
      fun other member => alike other (List.mem_cons_of_mem _ member)
    by_cases kept : keep item = true
    · have known := alike item List.mem_cons_self kept
      rw [List.filter_cons_of_pos kept]
      by_cases before : key item ∈ seen
      · rw [distinctBy, if_pos (by simpa using before), distinctBy,
          if_pos (by simpa using known.mp before)]
        exact ih later rest
      · rw [distinctBy, if_neg (by simpa using before), distinctBy,
          if_neg (by simpa using fun inside => before (known.mpr inside)),
          List.filter_cons_of_pos kept]
        congr 1
        apply ih later
        intro other member stays
        rw [List.mem_cons, List.mem_cons, rest other member stays]
    · rw [List.filter_cons_of_neg kept, distinctBy]
      split
      · exact ih later rest
      · rw [List.filter_cons_of_neg kept]
        apply ih later
        intro other member stays
        have different : key other ≠ key item := by
          intro same
          have both := together other (List.mem_cons_of_mem _ member) item List.mem_cons_self same
          rw [stays] at both
          exact kept both.symm
        rw [rest other member stays, List.mem_cons]
        constructor
        · exact .inr
        · rintro (same | inside)
          · exact absurd same different
          · exact inside

/-- Of the items with one key the first is found. -/
theorem find?_distinctBy {seen : List β} {wanted : β} (new : wanted ∉ seen) (items : List α) :
    (distinctBy key seen items).find? (fun item => key item == wanted) =
      items.find? fun item => key item == wanted := by
  fun_induction distinctBy key seen items with
  | case1 => rfl
  | case2 seen first more known ih =>
    have other : key first ≠ wanted := by
      rintro rfl
      exact new (by simpa using known)
    rw [ih new, List.find?_cons_of_neg (by simpa using other)]
  | case3 seen first more _ ih =>
    by_cases same : key first = wanted
    · rw [List.find?_cons_of_pos (by simpa using same),
        List.find?_cons_of_pos (by simpa using same)]
    · have still : wanted ∉ key first :: seen := by
        rw [List.mem_cons, not_or]
        exact ⟨Ne.symm same, new⟩
      rw [List.find?_cons_of_neg (by simpa using same),
        List.find?_cons_of_neg (by simpa using same), ih still]

theorem mem_distinct [BEq α] [LawfulBEq α] {items : List α} {item : α} :
    item ∈ distinct items ↔ item ∈ items := by
  constructor
  · intro member
    exact (distinctBy_sublist id [] items).subset member
  · intro member
    obtain ⟨other, kept, same⟩ := @exists_mem_distinctBy α α _ _ id [] items item member (by simp)
    rw [← show other = item from same]
    exact kept

theorem nodup_distinct [BEq α] [LawfulBEq α] (items : List α) : (distinct items).Nodup := by
  have distinctKeys := (nodup_distinctBy id [] items).1
  rwa [List.map_id] at distinctKeys

/-- Lists of the same items have as many distinct ones. -/
theorem length_distinct_congr [BEq α] [LawfulBEq α] {items others : List α}
    (same : ∀ item, item ∈ items ↔ item ∈ others) :
    (distinct items).length = (distinct others).length := by
  refine List.Perm.length_eq ?_
  refine (List.perm_ext_iff_of_nodup (nodup_distinct _) (nodup_distinct _)).mpr fun item => ?_
  rw [mem_distinct, mem_distinct, same]

/-- Of two lists without a common item, the distinct items are those of each. -/
theorem length_distinct_append [BEq α] [LawfulBEq α] {front back : List α}
    (apart : ∀ item ∈ front, item ∉ back) :
    (distinct (front ++ back)).length = (distinct front).length + (distinct back).length := by
  have nodup : (distinct front ++ distinct back).Nodup := by
    refine List.nodup_append.mpr ⟨nodup_distinct front, nodup_distinct back, ?_⟩
    rintro item member other alsoMember rfl
    exact apart item (mem_distinct.mp member) (mem_distinct.mp alsoMember)
  have perm : (distinct (front ++ back)).Perm (distinct front ++ distinct back) := by
    refine (List.perm_ext_iff_of_nodup (nodup_distinct _) nodup).mpr fun item => ?_
    simp only [mem_distinct, List.mem_append]
  rw [perm.length_eq, List.length_append]

end MessageKeys
