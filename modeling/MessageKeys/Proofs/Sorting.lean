import Mathlib.Data.List.Nodup
import Mathlib.Data.List.Perm.Basic

/-!
Sorting by an order of comparison.

A sorted list goes up, and it goes up strictly if the order tells its items apart. A list that goes
up strictly is determined by its items (`eq_of_increasing`), so that nothing of the order before
sorting is left. Where the order does not tell items apart, sorting leaves them as they stand
(`ties_mergeSort`), and this determines the sorted list as well (`eq_of_ties`); so leaving items out
and sorting can change places (`mergeSort_filter`).
-/
namespace MessageKeys

theorem isLE_total {α : Type} (order : α → α → Ordering) [Std.TransCmp order] (a b : α) :
    ((order a b).isLE || (order b a).isLE) = true := by
  cases compared : order a b with
  | lt => rfl
  | eq => rfl
  | gt => simp [Std.OrientedCmp.gt_iff_lt.mp compared]

theorem pairwise_mergeSort_order {α : Type} (order : α → α → Ordering) [Std.TransCmp order]
    (items : List α) :
    (items.mergeSort fun a b => (order a b).isLE).Pairwise fun a b => (order a b).isLE :=
  List.pairwise_mergeSort (fun _ _ _ => Std.TransCmp.isLE_trans) (isLE_total order) items

/-- Lists of the same items are sorted into the same list, if the order tells all items apart. -/
theorem mergeSort_eq_of_perm {α : Type} {order : α → α → Ordering} [Std.TransCmp order]
    {items others : List α} (perm : items.Perm others)
    (apart : ∀ a ∈ items, ∀ b ∈ items, order a b = .eq → a = b) :
    (items.mergeSort fun a b => (order a b).isLE) =
      others.mergeSort fun a b => (order a b).isLE := by
  refine List.Perm.eq_of_pairwise ?_ (pairwise_mergeSort_order order items)
    (pairwise_mergeSort_order order others)
    ((List.mergeSort_perm _ _).trans (perm.trans (List.mergeSort_perm _ _).symm))
  intro a b here there upwards downwards
  rw [List.mem_mergeSort] at here there
  exact apart a here b (perm.mem_iff.mpr there)
    (Std.OrientedCmp.isLE_antisymm upwards downwards)

/-- Whether a list goes up strictly. -/
def Increasing {α : Type} (order : α → α → Ordering) (items : List α) : Prop :=
  items.Pairwise fun a b => order a b = .lt

section Increasing

variable {α : Type} {order : α → α → Ordering} {items others : List α}

/-- A list that goes up goes up strictly, if the order tells its items apart. -/
theorem increasing_of_apart (sorted : items.Pairwise fun a b => (order a b).isLE)
    (apart : items.Pairwise fun a b => order a b ≠ .eq) : Increasing order items := by
  refine (sorted.and apart).imp ?_
  rintro a b ⟨upwards, different⟩
  cases compared : order a b with
  | lt => rfl
  | eq => exact absurd compared different
  | gt => simp [compared] at upwards

variable [Std.TransCmp order]

theorem increasing_mergeSort (apart : items.Pairwise fun a b => order a b ≠ .eq) :
    Increasing order (items.mergeSort fun a b => (order a b).isLE) := by
  refine increasing_of_apart (pairwise_mergeSort_order order items) ?_
  refine ((List.mergeSort_perm items _).pairwise_iff ?_).mpr apart
  intro a b different tied
  exact different (Std.OrientedCmp.eq_symm tied)

theorem Increasing.nodup (increasing : Increasing order items) : items.Nodup := by
  refine increasing.imp ?_
  rintro a _ upwards rfl
  have equal : order a a = .eq := Std.ReflCmp.compare_self
  rw [equal] at upwards
  cases upwards

/-- Lists that go up strictly and have the same items are equal. -/
theorem eq_of_increasing (up : Increasing order items) (alsoUp : Increasing order others)
    (same : ∀ item, item ∈ items ↔ item ∈ others) : items = others := by
  have perm : items.Perm others := (List.perm_ext_iff_of_nodup up.nodup alsoUp.nodup).mpr same
  refine List.Perm.eq_of_pairwise ?_ up alsoUp perm
  intro a b _ _ upwards downwards
  rw [Std.OrientedCmp.gt_of_lt upwards] at downwards
  cases downwards

end Increasing

section Ties

variable {α : Type} {order : α → α → Ordering} {item other : α} {items others : List α}

/-- The items of a list that the order does not tell apart from a given one. -/
def ties (order : α → α → Ordering) (item : α) (items : List α) : List α :=
  items.filter fun other => order item other == .eq

theorem mem_ties : other ∈ ties order item items ↔ other ∈ items ∧ order item other = .eq := by
  simp [ties]

variable [Std.TransCmp order]

/-- Sorting leaves items that the order does not tell apart as they stand. -/
theorem ties_mergeSort (item : α) (items : List α) :
    ties order item (items.mergeSort fun a b => (order a b).isLE) = ties order item items := by
  have inOrder : (ties order item items).Pairwise fun a b => (order a b).isLE := by
    refine List.pairwise_of_forall_mem_list ?_
    intro a here b there
    have tied : order a b = .eq :=
      Std.TransCmp.eq_trans (Std.OrientedCmp.eq_symm (mem_ties.mp here).2) (mem_ties.mp there).2
    simp [tied]
  have kept := (List.sublist_mergeSort (fun _ _ _ => Std.TransCmp.isLE_trans) (isLE_total order)
    inOrder List.filter_sublist).filter fun other => order item other == .eq
  have count := ((List.mergeSort_perm items fun a b => (order a b).isLE).filter
    fun other => order item other == .eq).length_eq
  have again : (ties order item items).filter (fun other => order item other == .eq) =
      ties order item items := by
    simp [ties]
  rw [again] at kept
  exact (kept.eq_of_length count.symm).symm

/-- A sorted list is determined by its items and by how those that are tied stand in it. -/
theorem eq_of_ties (sorted : items.Pairwise fun a b => (order a b).isLE)
    (alsoSorted : others.Pairwise fun a b => (order a b).isLE)
    (same : ∀ item, ties order item items = ties order item others) : items = others := by
  have self : ∀ item : α, order item item = .eq := fun _ => Std.ReflCmp.compare_self
  induction items generalizing others with
  | nil =>
    cases others with
    | nil => rfl
    | cons other rest =>
      have none := same other
      simp [ties, self] at none
  | cons item more ih =>
    cases others with
    | nil =>
      have none := same item
      simp [ties, self] at none
    | cons other rest =>
      have here : item ∈ other :: rest := by
        have member : item ∈ ties order item (item :: more) := mem_ties.mpr ⟨by simp, self item⟩
        rw [same item] at member
        exact (mem_ties.mp member).1
      have there : other ∈ item :: more := by
        have member : other ∈ ties order other (other :: rest) := mem_ties.mpr ⟨by simp, self other⟩
        rw [← same other] at member
        exact (mem_ties.mp member).1
      -- Neither of the two first items comes after the other one, so they are tied.
      have upwards : (order item other).isLE := by
        rcases List.mem_cons.mp there with equal | later
        · simp [equal, self]
        · exact (List.pairwise_cons.mp sorted).1 other later
      have downwards : (order other item).isLE := by
        rcases List.mem_cons.mp here with equal | later
        · simp [equal, self]
        · exact (List.pairwise_cons.mp alsoSorted).1 item later
      have tied : order item other = .eq := Std.OrientedCmp.isLE_antisymm upwards downwards
      have first := same item
      simp only [ties, List.filter_cons, self, tied, beq_self_eq_true, if_true,
        List.cons.injEq] at first
      rw [first.1] at same ⊢
      congr 1
      apply ih (List.pairwise_cons.mp sorted).2 (List.pairwise_cons.mp alsoSorted).2
      intro pivot
      have all := same pivot
      simp only [ties, List.filter_cons] at all ⊢
      split at all
      · exact (List.cons.inj all).2
      · exact all

/-- Items can be left out before sorting or after it. -/
theorem mergeSort_filter (keep : α → Bool) (items : List α) :
    ((items.filter keep).mergeSort fun a b => (order a b).isLE) =
      (items.mergeSort fun a b => (order a b).isLE).filter keep := by
  apply @eq_of_ties _ order _ _ _ (pairwise_mergeSort_order order _)
    ((pairwise_mergeSort_order order items).filter keep)
  intro item
  have stable := @ties_mergeSort _ order _ item items
  calc
    ties order item ((items.filter keep).mergeSort fun a b => (order a b).isLE)
      = ties order item (items.filter keep) := ties_mergeSort item _
    _ = (ties order item items).filter keep := List.filter_comm _ _ _
    _ = (ties order item (items.mergeSort fun a b => (order a b).isLE)).filter keep := by
      rw [stable]
    _ = ties order item ((items.mergeSort fun a b => (order a b).isLE).filter keep) :=
      List.filter_comm _ _ _

end Ties

end MessageKeys
