import FragmentSearch.Proofs.Text.Name
import FragmentSearch.Text.Case

/-!
# No character is lost in lower case

The lower-case image of a character above ASCII comes from a table. As no word of a table is empty, no image is, and a
text in lower case is empty only if it was so before (`lower_eq_empty_iff`).
-/

namespace FragmentSearch.Text

/-! ## 1. Images in a table -/

section Images

variable {w s : List Char}

theorem ne_nil_of_mem_foldr_wordStep (h : w ∈ (s.foldr wordStep ([], [])).2) : w ≠ [] := by
  induction s with
  | nil => exact absurd h List.not_mem_nil
  | cons c s ih =>
      rw [List.foldr_cons, wordStep] at h
      split at h
      · dsimp only at h
        split at h
        · exact ih h
        · next hopen =>
            rcases List.mem_cons.mp h with rfl | h
            · exact fun e => hopen (List.isEmpty_iff.mpr e)
            · exact ih h
      · exact ih h

/-- No word of a table is empty. -/
theorem ne_nil_of_mem_tableWords {t : String} (h : w ∈ tableWords t) : w ≠ [] := by
  rw [tableWords_eq, wordsOf] at h
  split at h
  · exact ne_nil_of_mem_foldr_wordStep h
  · next hopen =>
      rcases List.mem_cons.mp h with rfl | h
      · exact fun e => hopen (List.isEmpty_iff.mpr e)
      · exact ne_nil_of_mem_foldr_wordStep h

namespace Runs

theorem readImage_succ_ne_nil (fuel : Nat) (s : List Char) : readImage (fuel + 1) s ≠ [] := by
  rw [readImage]
  split <;> exact List.cons_ne_nil _ _

/-- The fuel of an image is the length of its word. -/
theorem image_ofWord_ne_nil (h : w ≠ []) : (ofWord w).image ≠ [] := by
  obtain ⟨c, r, rfl⟩ := List.exists_cons_of_ne_nil h
  exact readImage_succ_ne_nil r.length _

/-- **No image is empty.** -/
theorem image?_ofTable_ne_nil {t : String} {c : Nat} {ts : List Nat} (h : (ofTable t).image? c = some ts) : ts ≠ [] := by
  unfold image? at h
  split at h
  · cases h
  · next r hr =>
      obtain ⟨w, hw, rfl⟩ : ∃ w ∈ tableWords t, ofWord w = r := by
        have hmem := (exists_of_search hr).1
        unfold ofTable at hmem
        exact List.mem_map.mp (List.mem_toArray.mp hmem)
      split at h
      · split at h
        · cases h
          exact List.cons_ne_nil _ _
        · cases h
          exact image_ofWord_ne_nil (ne_nil_of_mem_tableWords hw)
      · cases h

end Runs

end Images

/-! ## 2. Lower case -/

section Lower

theorem lowerChar_ne_nil (c : Char) : lowerChar c ≠ [] := by
  unfold lowerChar
  split
  · exact List.cons_ne_nil _ _
  · split
    · next codes himage => exact fun e => Runs.image?_ofTable_ne_nil himage (List.map_eq_nil_iff.mp e)
    · exact List.cons_ne_nil _ _

theorem lowerFrom_ne_nil {s : List Char} (h : s ≠ []) (before : List Char) : lowerFrom before s ≠ [] := by
  obtain ⟨c, r, rfl⟩ := List.exists_cons_of_ne_nil h
  rw [lowerFrom]
  refine List.append_ne_nil_of_left_ne_nil ?_ _
  split
  · split <;> exact List.cons_ne_nil _ _
  · exact lowerChar_ne_nil c

/-- **A text in lower case is empty only if the text is.** -/
theorem lower_eq_empty_iff {s : String} : lower s = "" ↔ s = "" := by
  constructor
  · intro h
    have hnil : lowerFrom [] s.toList = [] := String.ofList_eq_empty_iff.mp h
    refine Decidable.byContradiction fun hs => ?_
    exact lowerFrom_ne_nil (fun e => hs (String.toList_eq_nil_iff.mp e)) [] hnil
  · rintro rfl
    rfl

end Lower

end FragmentSearch.Text
