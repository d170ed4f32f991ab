import Mathlib

/-!
Lists sorted by a comparison, which may find different items equal. Main statements: sorted lists
are in order, ascending or descending, and no item is greater than the first of a descending one.
-/

set_option autoImplicit false

namespace CardCatalog

/-- The first of several items in order comes before each of them. -/
theorem rel_of_head? {α : Type} {r : α → α → Prop} {items : List α} {first a : α}
    (reflexive : ∀ a, r a a) (ordered : items.Pairwise r) (head : items.head? = some first)
    (member : a ∈ items) : r first a := by
  obtain ⟨rest, rfl⟩ := List.head?_eq_some_iff.1 head
  exact ordered.rel_head_of_rel_head_head member (reflexive _)

section

variable {α : Type} {cmp : α → α → Ordering} [Std.TransCmp cmp]

/-- Items compared by their keys. -/
theorem transCmp_key {β : Type} (key : β → α) : Std.TransCmp fun a b => cmp (key a) (key b) where
  eq_swap := Std.OrientedCmp.eq_swap
  isLE_trans := Std.TransCmp.isLE_trans

theorem bne_gt_eq_isLE (o : Ordering) : (o != .gt) = o.isLE := by
  cases o <;> rfl

theorem bne_lt_eq_isLE (a b : α) : (cmp a b != .lt) = (cmp b a).isLE := by
  have swap : cmp a b = (cmp b a).swap := Std.OrientedCmp.eq_swap
  rw [swap]
  cases cmp b a <;> rfl

theorem isLE_or_isLE (a b : α) : ((cmp a b).isLE || (cmp b a).isLE) = true := by
  have swap : cmp b a = (cmp a b).swap := Std.OrientedCmp.eq_swap
  rw [swap]
  cases cmp a b <;> rfl

theorem pairwise_mergeSort_ascending (items : List α) :
    (items.mergeSort fun a b => cmp a b != .gt).Pairwise fun a b => (cmp a b).isLE = true := by
  simp only [bne_gt_eq_isLE]
  exact List.pairwise_mergeSort (fun _ _ _ => Std.TransCmp.isLE_trans) isLE_or_isLE items

theorem pairwise_mergeSort_descending (items : List α) :
    (items.mergeSort fun a b => cmp a b != .lt).Pairwise fun a b => (cmp b a).isLE = true := by
  simp only [bne_lt_eq_isLE]
  refine List.pairwise_mergeSort ?_ (fun a b => isLE_or_isLE b a) items
  exact fun a b c first second => Std.TransCmp.isLE_trans second first

/-- An item put in front of others comes first in ascending order unless the first of them is
less. -/
theorem head?_mergeSort_cons (a : α) (items : List α) :
    ((a :: items).mergeSort fun a b => cmp a b != .gt).head? =
      some ((items.mergeSort fun a b => cmp a b != .gt).head?.elim a fun b =>
        if cmp b a = .lt then b else a) := by
  have sorted : ((a :: items).mergeSort fun a b => cmp a b != .gt).Pairwise
      fun a b => (cmp a b).isLE = true := pairwise_mergeSort_ascending (a :: items)
  have transitive (a b c : α) : cmp a b != .gt → cmp b c != .gt → cmp a c != .gt := by
    simpa only [bne_gt_eq_isLE] using Std.TransCmp.isLE_trans
  have total (a b : α) : (cmp a b != .gt || cmp b a != .gt) = true := by
    simpa only [bne_gt_eq_isLE] using isLE_or_isLE a b
  obtain ⟨less, rest, whole, others, least⟩ := List.mergeSort_cons transitive total a items
  have swap (b : α) : cmp b a = (cmp a b).swap := Std.OrientedCmp.eq_swap
  rw [whole] at sorted ⊢
  rw [others]
  cases less with
  | nil =>
    rw [List.nil_append, List.pairwise_cons] at sorted
    cases rest with
    | nil => rfl
    | cons b rest =>
      have atMost := sorted.1 b List.mem_cons_self
      have other : cmp b a ≠ .lt := by
        rw [swap]
        cases order : cmp a b <;> simp_all
      simp [other]
  | cons b less =>
    have greater := least b List.mem_cons_self
    have below : cmp b a = .lt := by
      rw [swap]
      cases order : cmp a b <;> simp_all
    simp [below]

theorem isLE_of_head?_mergeSort {items : List α} {first a : α}
    (head : (items.mergeSort fun a b => cmp a b != .lt).head? = some first) (member : a ∈ items) :
    (cmp a first).isLE = true := by
  have sorted : (items.mergeSort fun a b => cmp a b != .lt).Pairwise
      fun a b => (cmp b a).isLE = true := pairwise_mergeSort_descending items
  have before := rel_of_head? (fun _ => Std.ReflCmp.isLE_rfl) sorted head
    (List.mem_mergeSort.2 member)
  exact before

end

end CardCatalog
