import Mathlib.Data.List.MinMax
import Mathlib.Data.List.Sort

/-! # The newest of a list

Dropping the front of a sorted list leaves the elements that come last in the
order. Which of two equal elements is left is not said: any order of the list
before the sort gives one admissible choice. The one element that is newest is
as undetermined, but its class is known where one class has the last word.
-/

namespace Foundation

variable {α : Type}

/-- `kept` are `n` elements of `all`, or all of them, and no other element comes
strictly after one of them. -/
structure Newest (le : α → α → Bool) (n : Nat) (all kept : List α) : Prop where
  part : kept.Sublist all
  size : kept.length = min n all.length
  newer : ∀ a ∈ kept, ∀ b ∈ all, b ∉ kept → le b a = true

variable {le : α → α → Bool}

theorem Newest.whole {n : Nat} {all : List α} (h : all.length ≤ n) : Newest le n all all where
  part := List.Sublist.refl all
  size := (min_eq_right h).symm
  newer _ _ _ hb hout := absurd hb hout

theorem le_of_mem_take_of_mem_drop
    (trans : ∀ a b c : α, le a b = true → le b c = true → le a c = true)
    (total : ∀ a b : α, (le a b || le b a) = true) {l : List α} {k : Nat} {a b : α}
    (hb : b ∈ (l.mergeSort le).take k) (ha : a ∈ (l.mergeSort le).drop k) : le b a = true := by
  have hsorted := List.pairwise_mergeSort trans total l
  rw [← List.take_append_drop k (l.mergeSort le)] at hsorted
  exact (List.pairwise_append.mp hsorted).2.2 b hb a ha

variable [DecidableEq α]

theorem filter_notMem_take_perm (le : α → α → Bool) {all l : List α} (hl : l.Perm all)
    (hnodup : all.Nodup) (k : Nat) :
    (all.filter (· ∉ (l.mergeSort le).take k)).Perm ((l.mergeSort le).drop k) := by
  have hsort : (l.mergeSort le).Perm all := (List.mergeSort_perm l le).trans hl
  have hnodup' : (l.mergeSort le).Nodup := hsort.nodup_iff.mpr hnodup
  have hsplit := List.take_append_drop k (l.mergeSort le)
  have hdisjoint : ((l.mergeSort le).take k).Disjoint ((l.mergeSort le).drop k) := by
    rw [← hsplit] at hnodup'
    exact List.disjoint_of_nodup_append hnodup'
  have hrest : ((l.mergeSort le).drop k).Nodup := hnodup'.sublist (List.drop_sublist _ _)
  refine (List.perm_ext_iff_of_nodup (hnodup.filter _) hrest).mpr ?_
  intro a
  have hmem : a ∈ all ↔ a ∈ (l.mergeSort le).take k ∨ a ∈ (l.mergeSort le).drop k := by
    rw [← hsort.mem_iff, ← List.mem_append, hsplit]
  simp only [List.mem_filter, decide_eq_true_eq, hmem]
  constructor
  · rintro ⟨ha | ha, hout⟩
    · exact absurd ha hout
    · exact ha
  · intro ha
    exact ⟨.inr ha, fun hfront => hdisjoint hfront ha⟩

theorem Newest.of_mergeSort (trans : ∀ a b c : α, le a b = true → le b c = true → le a c = true)
    (total : ∀ a b : α, (le a b || le b a) = true) {all l : List α} (hl : l.Perm all)
    (hnodup : all.Nodup) (n : Nat) :
    Newest le n all (all.filter (· ∉ (l.mergeSort le).take (l.length - n))) where
  part := List.filter_sublist
  size := by
    have hperm := filter_notMem_take_perm le hl hnodup (l.length - n)
    have hlen : l.length = all.length := hl.length_eq
    rw [hperm.length_eq, List.length_drop, List.length_mergeSort]
    omega
  newer := by
    intro a ha b hb hout
    have hperm := filter_notMem_take_perm le hl hnodup (l.length - n)
    have hfront : b ∈ (l.mergeSort le).take (l.length - n) := by
      by_contra hrest
      exact hout (List.mem_filter.mpr ⟨hb, decide_eq_true hrest⟩)
    exact le_of_mem_take_of_mem_drop trans total hfront (hperm.mem_iff.mp ha)

end Foundation
