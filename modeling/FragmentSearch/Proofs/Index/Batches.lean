import FragmentSearch.Index.Embedding

/-!
# Batches

The batches of a list are its consecutive slices of a size (`batches_eq_slices`), and put together again they
are the list (`flatten_batches`). A run asks for one batch after the other (`embedBatches_cons`).
-/

namespace FragmentSearch.Index

/-! ## 1. Slices -/

section Slices

variable {α : Type}

/-- The consecutive slices of a list, `size` members each; the last may be shorter. Their number is the length
divided by the size, rounded up. -/
def slices (size : Nat) (xs : List α) : List (List α) :=
  (List.range ((xs.length + (size - 1)) / size)).map fun k => (xs.drop (k * size)).take size

theorem sublist_of_mem_slices {size : Nat} {xs ys : List α} (h : ys ∈ slices size xs) : ys.Sublist xs := by
  obtain ⟨k, _, rfl⟩ := List.mem_map.mp h
  exact (List.take_sublist _ _).trans (List.drop_sublist _ _)

/-- The number of slices of a longer list. -/
theorem slices_count (n k : Nat) : (n + 1 + k) / (k + 1) = (n - k + k) / (k + 1) + 1 := by
  have hstep : (n + 1 + k) / (k + 1) = n / (k + 1) + 1 := by
    rw [show n + 1 + k = n + (k + 1) by omega]
    exact Nat.add_div_right n (Nat.succ_pos k)
  rw [hstep]
  rcases Nat.lt_or_ge n k with h | h
  · have hnone : n - k + k = k := by omega
    rw [hnone, Nat.div_eq_of_lt (Nat.lt_succ_of_lt h), Nat.div_eq_of_lt (Nat.lt_succ_self k)]
  · rw [Nat.sub_add_cancel h]

/-- The first slice, and the slices of the rest. -/
theorem slices_cons (k : Nat) (x : α) (xs : List α) :
    slices (k + 1) (x :: xs) = (x :: xs.take k) :: slices (k + 1) (xs.drop k) := by
  unfold slices
  rw [List.length_cons, List.length_drop, Nat.add_sub_cancel, slices_count, List.range_succ_eq_map, List.map_cons,
    List.map_map, Nat.zero_mul]
  refine congrArg (_ :: ·) (List.map_congr_left fun i _ => ?_)
  have hplace : (i + 1) * (k + 1) = k + i * (k + 1) + 1 := by rw [Nat.succ_mul]; omega
  show List.take (k + 1) ((x :: xs).drop ((i + 1) * (k + 1))) = _
  rw [hplace, List.drop_succ_cons, List.drop_drop]

/-- **The batches of a list are its slices.** -/
theorem batches_eq_slices (k : Nat) (xs : List α) : batches k xs = slices (k + 1) xs := by
  induction xs using batches.induct k with
  | case1 =>
      rw [batches, slices, List.length_nil, Nat.zero_add, Nat.add_sub_cancel, Nat.div_eq_of_lt (Nat.lt_succ_self k)]
      rfl
  | case2 x xs ih => rw [batches, ih, slices_cons]

theorem flatten_batches (k : Nat) (xs : List α) : (batches k xs).flatten = xs := by
  induction xs using batches.induct k with
  | case1 => rw [batches]; rfl
  | case2 x xs ih => rw [batches, List.flatten_cons, ih, List.cons_append, List.take_append_drop]

end Slices

/-! ## 2. One batch after the other -/

theorem embedBatches_cons (o : Outside) (e : Embedder) (batch : List Fragment) (rest : List (List Fragment))
    (run : EmbeddingRun) (j : Journal) :
    embedBatches o e (batch :: rest) run j =
      if (run.take batch (e.ask o (batch.map (·.contextText)) j).1).broken.isSome
      then (run.take batch (e.ask o (batch.map (·.contextText)) j).1, (e.ask o (batch.map (·.contextText)) j).2)
      else embedBatches o e rest (run.take batch (e.ask o (batch.map (·.contextText)) j).1)
        (e.ask o (batch.map (·.contextText)) j).2 := by
  show (if (run.take batch (e.ask o (batch.map (·.contextText)) j).1).broken.isSome then pure _ else _ :
    Session EmbeddingRun) _ = _
  cases (run.take batch (e.ask o (batch.map (·.contextText)) j).1).broken.isSome <;> rfl

end FragmentSearch.Index
