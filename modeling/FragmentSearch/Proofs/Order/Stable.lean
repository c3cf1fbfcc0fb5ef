import Mathlib.Data.List.Nodup
import Mathlib.Data.List.Perm.Basic

/-!
# Stable sorting

A stable sort keeps entries that it cannot tell apart in the order in which it found them
(`pairwise_mergeSort`). That an entry stands before another one is said by the sublist of the two.
-/

namespace FragmentSearch.Stable

variable {α : Type} {l : List α} {a b : α}

/-- Of two different members of a list, one stands before the other. -/
theorem pair_sublist (ha : a ∈ l) (hb : b ∈ l) (hab : a ≠ b) : [a, b].Sublist l ∨ [b, a].Sublist l := by
  induction l with
  | nil => exact absurd ha List.not_mem_nil
  | cons c l ih =>
      rcases List.mem_cons.mp ha with rfl | ha'
      · have hb' := (List.mem_cons.mp hb).resolve_left fun e => hab e.symm
        exact Or.inl ((List.singleton_sublist.mpr hb').cons_cons a)
      · rcases List.mem_cons.mp hb with rfl | hb'
        · exact Or.inr ((List.singleton_sublist.mpr ha').cons_cons b)
        · exact (ih ha' hb').imp (.cons c) (.cons c)

/-- In a list without repetition two members do not stand in both orders. -/
theorem not_sublist_swap (hn : l.Nodup) (hab : [a, b].Sublist l) : ¬ [b, a].Sublist l := by
  induction l with
  | nil => exact fun h => nomatch h
  | cons c l ih =>
      obtain ⟨hc, hn'⟩ := List.nodup_cons.mp hn
      intro hba
      cases hab with
      | cons _ hab' =>
          cases hba with
          | cons _ hba' => exact ih hn' hab' hba'
          | cons_cons _ _ => exact hc (hab'.subset (List.mem_cons_of_mem _ List.mem_cons_self))
      | cons_cons _ hab' =>
          cases hba with
          | cons _ hba' => exact hc (hba'.subset (List.mem_cons_of_mem _ List.mem_cons_self))
          | cons_cons _ _ => exact hc (List.singleton_sublist.mp hab')

/-- **A sorted list is in order, and entries that the order does not tell apart stand as they stood before.** -/
theorem pairwise_mergeSort {le : α → α → Bool} (trans : ∀ a b c, le a b = true → le b c = true → le a c = true)
    (total : ∀ a b, (le a b || le b a) = true) (hn : l.Nodup) :
    (l.mergeSort le).Pairwise fun a b => le a b = true ∧ (le b a = true → [a, b].Sublist l) := by
  have hperm := List.mergeSort_perm l le
  have hn' : (l.mergeSort le).Nodup := hperm.nodup_iff.mpr hn
  refine List.pairwise_iff_forall_sublist.mpr fun {a b} hab => ⟨?_, fun hba => ?_⟩
  · exact List.pairwise_iff_forall_sublist.mp (List.pairwise_mergeSort trans total l) hab
  · have hmem : ∀ c ∈ [a, b], c ∈ l := fun c hc => hperm.mem_iff.mp (hab.subset hc)
    have hne : a ≠ b := by
      rintro rfl
      exact not_sublist_swap hn' hab hab
    -- were `b` before `a`, the sort would have kept it there
    refine (pair_sublist (hmem a (by simp)) (hmem b (by simp)) hne).resolve_right fun hswap => ?_
    exact not_sublist_swap hn' hab (List.pair_sublist_mergeSort trans total hba hswap)

end FragmentSearch.Stable
