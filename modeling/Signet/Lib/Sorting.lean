import Mathlib.Data.List.Sort

/-!
# Lists up to order and repetition

Two lists are compared up to the order of their elements by sorting both. That is the
comparison of multisets exactly if the order used tells the elements apart
(`mergeSort_eq_iff_perm`).
-/

namespace Lib

variable {α : Type}

/-- **Sorted lists are equal exactly if the lists are permutations**, where the order separates the
elements of the first list. -/
theorem mergeSort_eq_iff_perm {le : α → α → Bool}
    (htrans : ∀ a b c, le a b = true → le b c = true → le a c = true)
    (htotal : ∀ a b, (le a b || le b a) = true) {xs ys : List α}
    (hanti : ∀ a ∈ xs, ∀ b ∈ xs, le a b = true → le b a = true → a = b) :
    xs.mergeSort le = ys.mergeSort le ↔ xs.Perm ys := by
  constructor
  · intro heq
    -- sorting permutes, whatever the order is
    have hsorted : (xs.mergeSort le).Perm ys := by
      rw [heq]
      exact List.mergeSort_perm ys le
    exact (List.mergeSort_perm xs le).symm.trans hsorted
  · intro hperm
    have hxs : ∀ {a}, a ∈ xs.mergeSort le → a ∈ xs := fun h => List.mem_mergeSort.1 h
    have hys : ∀ {a}, a ∈ ys.mergeSort le → a ∈ xs :=
      fun h => hperm.mem_iff.2 (List.mem_mergeSort.1 h)
    have hsame : (xs.mergeSort le).Perm (ys.mergeSort le) :=
      (List.mergeSort_perm xs le).trans (hperm.trans (List.mergeSort_perm ys le).symm)
    refine List.Perm.eq_of_pairwise (fun a b ha hb => hanti a (hxs ha) b (hys hb)) ?_ ?_ hsame
    · exact List.pairwise_mergeSort htrans htotal xs
    · exact List.pairwise_mergeSort htrans htotal ys

theorem nodup_eraseDups [DecidableEq α] (l : List α) : l.eraseDups.Nodup := by
  -- by the length of the list, since the tail is filtered
  induction hn : l.length using Nat.strongRecOn generalizing l with
  | ind n ih =>
    cases l with
    | nil => exact List.nodup_nil
    | cons a l =>
      rw [List.eraseDups_cons]
      refine List.nodup_cons.2 ⟨fun hmem => ?_, ?_⟩
      · have hfilter := (List.mem_filter.1 (List.mem_eraseDups.1 hmem)).2
        simp at hfilter
      · refine ih _ ?_ _ rfl
        rw [← hn]
        exact Nat.lt_succ_of_le (List.length_filter_le _ _)

end Lib
