import Mathlib.Data.List.Nodup
import Mathlib.Order.Lattice

/-!
# Stable sorting

A stable sort of a list orders its elements by a key and leaves the elements of one key in the order in
which they stood. There is exactly one, and merge sort computes it. So whatever does not look at the order
of elements with different keys gives the same list before and after the sort.
-/

namespace DocLint

set_option autoImplicit false

universe u v
variable {α : Type u} {κ : Type v} [LinearOrder κ]

/-- `s` is the stable sort of `l` by a key: the keys ascend, nothing is lost, repeated or invented, and the
elements of one key are in the order of `l`. -/
structure IsStableSort (key : α → κ) (l s : List α) : Prop where
  sorted : s.Pairwise fun a b => key a ≤ key b
  perm : s.Perm l
  stable : ∀ k, (s.filter fun a => key a = k) = l.filter fun a => key a = k

variable {key : α → κ} {l s t : List α}

/-- A sorted list is determined by what it holds of each key. -/
theorem eq_of_sorted_of_filter_eq (hs : s.Pairwise fun a b => key a ≤ key b)
    (ht : t.Pairwise fun a b => key a ≤ key b)
    (h : ∀ k, (s.filter fun a => key a = k) = t.filter fun a => key a = k) : s = t := by
  induction s generalizing t with
  | nil =>
    cases t with
    | nil => rfl
    | cons b t => simpa using h (key b)
  | cons a s ih =>
    cases t with
    | nil => simpa using h (key a)
    | cons b t =>
      obtain ⟨has, hstail⟩ := List.pairwise_cons.mp hs
      obtain ⟨hbt, httail⟩ := List.pairwise_cons.mp ht
      have hb : b ∈ (a :: s).filter fun c => key c = key b := by simp [h]
      have ha : a ∈ (b :: t).filter fun c => key c = key a := by simp [← h]
      have hab : key a = key b := by
        apply le_antisymm
        · rcases List.mem_cons.mp (List.mem_filter.mp hb).1 with rfl | hmem
          · exact le_refl _
          · exact has b hmem
        · rcases List.mem_cons.mp (List.mem_filter.mp ha).1 with rfl | hmem
          · exact le_refl _
          · exact hbt a hmem
      have hheads : a = b := by
        have hk := h (key a)
        simp only [List.filter_cons, hab, decide_true, if_true, List.cons.injEq] at hk
        exact hk.1
      subst b
      congr 1
      apply ih hstail httail
      intro k
      have hk := h k
      by_cases hak : key a = k
      · simpa [List.filter_cons, hak] using hk
      · simpa [List.filter_cons, hak] using hk

namespace IsStableSort

theorem unique (hs : IsStableSort key l s) (ht : IsStableSort key l t) : s = t := by
  apply eq_of_sorted_of_filter_eq hs.sorted ht.sorted
  intro k
  rw [hs.stable k, ht.stable k]

theorem mem_iff (hs : IsStableSort key l s) (a : α) : a ∈ s ↔ a ∈ l :=
  hs.perm.mem_iff

/-- Sorting commutes with leaving elements out. -/
theorem filter (hs : IsStableSort key l s) (p : α → Bool) :
    IsStableSort key (l.filter p) (s.filter p) := by
  refine ⟨hs.sorted.filter p, hs.perm.filter p, ?_⟩
  intro k
  rw [List.filter_comm, hs.stable k, List.filter_comm]

/-- Sorted lists that hold the same of each key are stable sorts of each other. -/
theorem of_filter_eq (hsorted : s.Pairwise fun a b => key a ≤ key b)
    (h : ∀ k, (s.filter fun a => key a = k) = l.filter fun a => key a = k) :
    IsStableSort key l s := by
  classical
  refine ⟨hsorted, ?_, h⟩
  apply List.perm_iff_count.mpr
  intro a
  have hcount : ∀ m : List α, m.count a = (m.filter fun b => key b = key a).count a := by
    intro m
    rw [List.count_filter (by simp)]
  rw [hcount s, hcount l, h (key a)]

end IsStableSort

/-- Merge sort is the stable sort by a key, when it compares keys. -/
theorem isStableSort_mergeSort (key : α → κ) {le : α → α → Bool}
    (hle : ∀ a b, le a b = true ↔ key a ≤ key b) (l : List α) :
    IsStableSort key l (l.mergeSort le) := by
  have htrans : ∀ a b c, le a b = true → le b c = true → le a c = true := by
    intro a b c hab hbc
    exact (hle a c).mpr (le_trans ((hle a b).mp hab) ((hle b c).mp hbc))
  have htotal : ∀ a b, (le a b || le b a) = true := by
    intro a b
    rw [Bool.or_eq_true, hle, hle]
    exact le_total _ _
  refine ⟨?_, List.mergeSort_perm l le, ?_⟩
  · exact (List.pairwise_mergeSort htrans htotal l).imp fun h => (hle _ _).mp h
  · intro k
    -- the elements of one key are in order already, so the sort leaves them as they stand
    have hclass : (l.filter fun a => key a = k).Pairwise fun a b => le a b = true := by
      apply List.pairwise_of_forall_mem_list
      intro a ha b hb
      have hak : key a = k := by simpa using (List.mem_filter.mp ha).2
      have hbk : key b = k := by simpa using (List.mem_filter.mp hb).2
      rw [hle, hak, hbk]
    have hsub := (List.sublist_mergeSort htrans htotal hclass List.filter_sublist).filter
      fun a => key a = k
    rw [List.filter_filter] at hsub
    simp only [Bool.and_self] at hsub
    have hlen := ((List.mergeSort_perm l le).filter fun a => key a = k).length_eq
    exact (hsub.eq_of_length hlen.symm).symm

/-- What a merge sort by a key gives is known from its keys and from what it holds of each key. -/
theorem mergeSort_eq_of_filter_eq (key : α → κ) {le : α → α → Bool}
    (hle : ∀ a b, le a b = true ↔ key a ≤ key b) (hsorted : s.Pairwise fun a b => key a ≤ key b)
    (h : ∀ k, (s.filter fun a => key a = k) = l.filter fun a => key a = k) :
    l.mergeSort le = s :=
  (isStableSort_mergeSort key hle l).unique (.of_filter_eq hsorted h)

/-- Sorting by keys that differ undoes whatever changed the order. -/
theorem mergeSort_eq_of_perm (key : α → κ) {le : α → α → Bool}
    (hle : ∀ a b, le a b = true ↔ key a ≤ key b) (hsorted : s.Pairwise fun a b => key a < key b)
    (hperm : l.Perm s) : l.mergeSort le = s := by
  have hsort := isStableSort_mergeSort key hle l
  have hkeys : (s.map key).Nodup := List.pairwise_map.mpr (hsorted.imp ne_of_lt)
  have hunique : ∀ a b, a ∈ l.mergeSort le → b ∈ s → key a ≤ key b → key b ≤ key a → a = b := by
    intro a b ha hb hab hba
    have has : a ∈ s := hperm.mem_iff.mp ((hsort.mem_iff a).mp ha)
    exact List.inj_on_of_nodup_map hkeys has hb (le_antisymm hab hba)
  exact (hsort.perm.trans hperm).eq_of_pairwise hunique hsort.sorted (hsorted.imp le_of_lt)

end DocLint
