import Mathlib.Data.List.Basic
import Mathlib.Order.Lattice

/-!
Sorting by a key. The sort is stable: elements with one key keep their order. For a descending sort
the keys are taken in the dual order.
-/

namespace Precis.KeySort

variable {α β : Type} [LinearOrder β]

private theorem key_trans (key : α → β) (a b c : α) (hab : decide (key a ≤ key b) = true)
    (hbc : decide (key b ≤ key c) = true) : decide (key a ≤ key c) = true :=
  decide_eq_true (le_trans (of_decide_eq_true hab) (of_decide_eq_true hbc))

private theorem key_total (key : α → β) (a b : α) :
    (decide (key a ≤ key b) || decide (key b ≤ key a)) = true := by
  rw [Bool.or_eq_true, decide_eq_true_eq, decide_eq_true_eq]
  exact le_total (key a) (key b)

/-- No key is above the keys behind it. -/
theorem pairwise_mergeSort (key : α → β) (l : List α) :
    (l.mergeSort fun a b => decide (key a ≤ key b)).Pairwise fun a b => key a ≤ key b :=
  (List.pairwise_mergeSort (key_trans key) (key_total key) l).imp of_decide_eq_true

/-- The elements with one key are those of the list, in its order. -/
theorem filter_mergeSort (key : α → β) (k : β) (l : List α) :
    (l.mergeSort fun a b => decide (key a ≤ key b)).filter (fun a => decide (key a = k)) =
      l.filter fun a => decide (key a = k) := by
  have htied : (l.filter fun a => decide (key a = k)).Pairwise fun a b =>
      decide (key a ≤ key b) = true := by
    refine List.pairwise_of_forall_mem_list fun a ha b hb => ?_
    have hka : key a = k := by simpa using List.of_mem_filter ha
    have hkb : key b = k := by simpa using List.of_mem_filter hb
    simp [hka, hkb]
  have hsub := List.sublist_mergeSort (key_trans key) (key_total key) htied List.filter_sublist
  have hfilter := hsub.filter fun a => decide (key a = k)
  simp only [List.filter_filter, Bool.and_self] at hfilter
  have hlength := ((List.mergeSort_perm l fun a b => decide (key a ≤ key b)).filter
    fun a => decide (key a = k)).length_eq
  exact (hfilter.eq_of_length hlength.symm).symm

/-- If a list is in an order of its own, sorting leaves those of one key in that order. -/
theorem pairwise_lex_mergeSort (key : α → β) {r : α → α → Prop} {l : List α} (h : l.Pairwise r) :
    (l.mergeSort fun a b => decide (key a ≤ key b)).Pairwise fun a b =>
      key a < key b ∨ key a = key b ∧ r a b := by
  rw [List.pairwise_iff_forall_sublist]
  intro a b hab
  have hle : key a ≤ key b := List.pairwise_iff_forall_sublist.1 (pairwise_mergeSort key l) hab
  cases hle.lt_or_eq with
  | inl hlt => exact .inl hlt
  | inr heq =>
      have hfilter : [a, b].Sublist (l.filter fun c => decide (key c = key b)) := by
        rw [← filter_mergeSort]
        simpa [heq] using hab.filter fun c => decide (key c = key b)
      exact .inr ⟨heq, List.pairwise_iff_forall_sublist.1 h (hfilter.trans List.filter_sublist)⟩

end Precis.KeySort
