import FragmentSearch.Text.Case
import FragmentSearch.Text.Words

/-!
# Pieces of a text

* `indexOf?_eq_some`, `occursIn_iff` -- a text is found in another where it is a stretch of it;
* `mem_splitWhere`, `mem_splitAt` -- the pieces of a text are stretches of it, and those between separators are not
  empty;
* `IsAscii` -- a text of ASCII characters. In lower case it is what it was, character by character
  (`toList_lower`).
-/

namespace FragmentSearch.Text

/-! ## 1. Finding -/

section Finding

variable {needle s : List Char}

/-- A text that was found at a place fills the text from there on, as far as it goes. -/
theorem indexOf?_eq_some {i : Nat} (h : indexOf? needle s = some i) : ∃ t, t.length = i ∧ t ++ needle <+: s := by
  induction s generalizing i with
  | nil =>
      rw [indexOf?] at h
      split at h
      · next hn =>
          obtain rfl : 0 = i := Option.some.inj h
          exact ⟨[], rfl, by rw [List.isEmpty_iff.mp hn]; exact List.prefix_rfl⟩
      · cases h
  | cons c r ih =>
      rw [indexOf?] at h
      split at h
      · next hp =>
          obtain rfl : 0 = i := Option.some.inj h
          exact ⟨[], rfl, List.isPrefixOf_iff_prefix.mp hp⟩
      · obtain ⟨j, hj, rfl⟩ := Option.map_eq_some_iff.mp h
        obtain ⟨t, ht, hpre⟩ := ih hj
        exact ⟨c :: t, congrArg Nat.succ ht, List.cons_prefix_cons.mpr ⟨rfl, hpre⟩⟩

/-- So there is room for it. -/
theorem indexOf?_add_length_le {i : Nat} (h : indexOf? needle s = some i) : i + needle.length ≤ s.length := by
  obtain ⟨t, rfl, hpre⟩ := indexOf?_eq_some h
  rw [← List.length_append]
  exact hpre.length_le

theorem isSome_indexOf? : (indexOf? needle s).isSome = true ↔ needle <:+: s := by
  induction s with
  | nil =>
      rw [indexOf?, List.infix_nil, ← List.isEmpty_iff]
      split
      · next hn => exact iff_of_true rfl hn
      · next hn => exact iff_of_false Bool.false_ne_true hn
  | cons c r ih =>
      rw [indexOf?, List.infix_cons_iff, ← List.isPrefixOf_iff_prefix]
      split
      · next hp => exact iff_of_true rfl (Or.inl hp)
      · next hp => rw [Option.isSome_map, ih, or_iff_right hp]

end Finding

/-- **To occur in a text** is to be a stretch of it. -/
theorem occursIn_iff {needle s : String} : occursIn needle s = true ↔ needle.toList <:+: s.toList := isSome_indexOf?

/-! ## 2. Cutting -/

section Cutting

variable {c : Char} {piece r s : List Char}

theorem splitWhere_cons_of_sep {sep : Char → Bool} (hc : sep c = true) : splitWhere sep (c :: r) = splitWhere sep r :=
  if_pos hc

/-- At a character that does not separate, the first piece starts. -/
theorem splitWhere_cons {sep : Char → Bool} (hc : sep c = false) :
    ∃ first pieces, splitWhere sep (c :: r) = (c :: first) :: pieces ∧ first <+: r ∧
      ∀ piece ∈ pieces, piece ∈ splitWhere sep r := by
  induction r generalizing c with
  | nil => exact ⟨[], [], if_neg (Bool.eq_false_iff.mp hc), List.prefix_rfl, fun _ h => nomatch h⟩
  | cons d r ih =>
      have e : splitWhere sep (c :: d :: r) = match splitWhere sep (d :: r) with
          | first :: pieces => if sep d then [c] :: first :: pieces else (c :: first) :: pieces
          | [] => [[c]] := by
        refine (if_neg (Bool.eq_false_iff.mp hc)).trans ?_
        cases splitWhere sep (d :: r) <;> rfl
      rw [e]
      by_cases hd : sep d = true
      · -- the piece ends here, and the rest is cut by itself
        refine ⟨[], splitWhere sep (d :: r), ?_, List.nil_prefix, fun _ h => h⟩
        cases splitWhere sep (d :: r) with
        | nil => rfl
        | cons first pieces => exact if_pos hd
      · obtain ⟨first, pieces, e', hfirst, hpieces⟩ := ih (Bool.eq_false_iff.mpr hd)
        rw [e']
        exact ⟨d :: first, pieces, if_neg hd, List.cons_prefix_cons.mpr ⟨rfl, hfirst⟩,
          fun piece h => List.mem_cons_of_mem _ h⟩

/-- **What stands between separators** is not empty, and a stretch of the text. -/
theorem mem_splitWhere {sep : Char → Bool} (h : piece ∈ splitWhere sep s) : piece ≠ [] ∧ piece <:+: s := by
  induction s with
  | nil => exact nomatch h
  | cons c r ih =>
      by_cases hc : sep c = true
      · rw [splitWhere_cons_of_sep hc] at h
        exact (ih h).imp_right List.infix_cons
      · obtain ⟨first, pieces, e, hfirst, hpieces⟩ := splitWhere_cons (r := r) (Bool.eq_false_iff.mpr hc)
        rw [e] at h
        rcases List.mem_cons.mp h with rfl | h
        · exact ⟨List.cons_ne_nil _ _, (List.cons_prefix_cons.mpr ⟨rfl, hfirst⟩).isInfix⟩
        · exact (ih (hpieces piece h)).imp_right List.infix_cons

/-- The first piece is at the front of the text, the others are somewhere in it. -/
theorem splitAt_eq_cons (sep : Char) (s : List Char) :
    ∃ first pieces, splitAt sep s = first :: pieces ∧ first <+: s ∧ ∀ piece ∈ pieces, piece <:+: s := by
  induction s with
  | nil => exact ⟨[], [], rfl, List.prefix_rfl, fun _ h => nomatch h⟩
  | cons c r ih =>
      obtain ⟨first, pieces, e, hfirst, hpieces⟩ := ih
      by_cases hc : c = sep
      · refine ⟨[], first :: pieces, by rw [splitAt, if_pos hc, e], List.nil_prefix, fun piece h => ?_⟩
        rcases List.mem_cons.mp h with rfl | h
        · exact List.infix_cons hfirst.isInfix
        · exact List.infix_cons (hpieces piece h)
      · exact ⟨c :: first, pieces, by rw [splitAt, if_neg hc, e], List.cons_prefix_cons.mpr ⟨rfl, hfirst⟩,
          fun piece h => List.infix_cons (hpieces piece h)⟩

/-- What stands between two places of a character is a stretch of the text. -/
theorem mem_splitAt {sep : Char} (h : piece ∈ splitAt sep s) : piece <:+: s := by
  obtain ⟨first, pieces, e, hfirst, hpieces⟩ := splitAt_eq_cons sep s
  rw [e] at h
  rcases List.mem_cons.mp h with rfl | h
  · exact hfirst.isInfix
  · exact hpieces piece h

/-- No word is empty. -/
theorem toList_ne_nil_of_mem_words {w s : String} (h : w ∈ words s) : w.toList ≠ [] := by
  obtain ⟨piece, hpiece, rfl⟩ := List.mem_map.mp h
  rw [String.toList_ofList]
  exact (mem_splitWhere hpiece).1

end Cutting

/-! ## 3. ASCII -/

section Ascii

/-- A text of ASCII characters. -/
def IsAscii (s : List Char) : Prop := ∀ c ∈ s, c.toNat < 128

instance (s : List Char) : Decidable (IsAscii s) := List.decidableBAll (fun c : Char => c.toNat < 128) s

variable {s t : List Char}

theorem IsAscii.append (hs : IsAscii s) (ht : IsAscii t) : IsAscii (s ++ t) := fun c hc =>
  (List.mem_append.mp hc).elim (hs c) (ht c)

theorem IsAscii.of_stretch (h : IsAscii s) (ht : t <:+: s) : IsAscii t := fun c hc => h c (ht.subset hc)

/-- A property of the ASCII characters, tried on all their codes. -/
theorem of_code {P : Char → Prop} (h : ∀ n < 128, P (Char.ofNat n)) (c : Char) (hc : c.toNat < 128) : P c := by
  have := h c.toNat hc
  rwa [Char.ofNat_toNat] at this

theorem toNat_toLower_lt (c : Char) (hc : c.toNat < 128) : c.toLower.toNat < 128 :=
  of_code (P := fun c => c.toLower.toNat < 128) (by decide +kernel) c hc

theorem toLower_toLower (c : Char) (hc : c.toNat < 128) : c.toLower.toLower = c.toLower :=
  of_code (P := fun c => c.toLower.toLower = c.toLower) (by decide +kernel) c hc

theorem IsAscii.map_toLower (h : IsAscii s) : IsAscii (s.map Char.toLower) := by
  intro c hc
  obtain ⟨d, hd, rfl⟩ := List.mem_map.mp hc
  exact toNat_toLower_lt d (h d hd)

/-- To put in lower case twice is to do so once. -/
theorem IsAscii.map_toLower_twice (h : IsAscii s) : (s.map Char.toLower).map Char.toLower = s.map Char.toLower := by
  rw [List.map_map]
  exact List.map_congr_left fun c hc => toLower_toLower c (h c hc)

/-- No sigma is among the ASCII characters, so what was read before does not matter. -/
theorem lowerFrom_eq (h : IsAscii s) (before : List Char) : lowerFrom before s = s.map Char.toLower := by
  induction s generalizing before with
  | nil => rfl
  | cons c r ih =>
      have hc : c.toNat < 128 := h c List.mem_cons_self
      have hr : IsAscii r := fun d hd => h d (List.mem_cons_of_mem _ hd)
      have hsigma : c ≠ capitalSigma := by
        rintro rfl
        exact absurd hc (by decide)
      rw [lowerFrom, if_neg hsigma, lowerChar, if_pos hc, ih hr, List.map_cons]
      rfl

/-- **An ASCII text in lower case.** -/
theorem toList_lower {s : String} (h : IsAscii s.toList) : (lower s).toList = s.toList.map Char.toLower := by
  rw [lower, String.toList_ofList, lowerFrom_eq h]

end Ascii

end FragmentSearch.Text
