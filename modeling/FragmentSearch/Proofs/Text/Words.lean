import FragmentSearch.Text.Words
import Mathlib.Data.List.TakeWhile

/-!
# The ends of a text

* `Trimmed` -- what is left of a text when something is taken off at both ends; `trimmed_iff` says how it is computed,
  `trimmed_trim` that blanks are taken off so;
* `trim_eq_empty_iff` -- nothing is left of a text just when it is made of blanks.
-/

namespace FragmentSearch.Text

/-! ## 1. What is left between the ends -/

section Ends

variable {p : Char → Bool} {s t : List Char}

/-- `t` is what is left of `s` without the characters at its ends that satisfy `p`. -/
structure Trimmed (p : Char → Bool) (s t : List Char) : Prop where
  between : ∃ before after, s = before ++ (t ++ after) ∧ (∀ c ∈ before, p c = true) ∧ ∀ c ∈ after, p c = true
  first : ∀ c ∈ t.head?, p c = false
  last : ∀ c ∈ t.getLast?, p c = false

theorem dropWhile_of_head (h : ∀ c ∈ s.head?, p c = false) : s.dropWhile p = s := by
  cases s with
  | nil => rfl
  | cons c s =>
      have hc : p c = false := h c rfl
      exact List.dropWhile_cons_of_neg (by rw [hc]; exact Bool.false_ne_true)

theorem head_dropWhile (p : Char → Bool) (s : List Char) : ∀ c ∈ (s.dropWhile p).head?, p c = false := by
  intro c hc
  have h := List.head?_dropWhile_not p s
  rw [hc] at h
  exact h

theorem Trimmed.eq (h : Trimmed p s t) : ((s.dropWhile p).reverse.dropWhile p).reverse = t := by
  obtain ⟨⟨before, after, rfl, hbefore, hafter⟩, hfirst, hlast⟩ := h
  rw [List.dropWhile_append_of_pos hbefore]
  have hback : (t ++ after).reverse.dropWhile p = t.reverse := by
    rw [List.reverse_append, List.dropWhile_append_of_pos fun c hc => hafter c (List.mem_reverse.mp hc)]
    refine dropWhile_of_head fun c hc => hlast c ?_
    rwa [List.getLast?_eq_head?_reverse]
  cases t with
  | nil =>
      have hnil : after.dropWhile p = [] := List.dropWhile_eq_nil_iff.mpr hafter
      rw [List.nil_append, hnil]
      rfl
  | cons c t =>
      have hall : (c :: t ++ after).dropWhile p = c :: t ++ after := dropWhile_of_head fun d hd => hfirst d hd
      rw [hall, hback, List.reverse_reverse]

theorem trimmed_dropWhile (p : Char → Bool) (s : List Char) :
    Trimmed p s ((s.dropWhile p).reverse.dropWhile p).reverse := by
  generalize hu : s.dropWhile p = u
  have hs : s = s.takeWhile p ++ u := by rw [← hu, List.takeWhile_append_dropWhile]
  have hsplit : u = (u.reverse.dropWhile p).reverse ++ (u.reverse.takeWhile p).reverse := by
    rw [← List.reverse_append, List.takeWhile_append_dropWhile, List.reverse_reverse]
  refine ⟨⟨s.takeWhile p, (u.reverse.takeWhile p).reverse, ?_, fun c hc => List.mem_takeWhile_imp hc, fun c hc => ?_⟩,
    fun c hc => ?_, fun c hc => ?_⟩
  · rw [← hsplit]
    exact hs
  · exact List.mem_takeWhile_imp (List.mem_reverse.mp hc)
  · refine head_dropWhile p s c ?_
    rw [hu, hsplit, List.head?_append, hc]
    rfl
  · rw [List.getLast?_reverse] at hc
    exact head_dropWhile p u.reverse c hc

/-- **What is left** is found by dropping from both ends. -/
theorem trimmed_iff : Trimmed p s t ↔ ((s.dropWhile p).reverse.dropWhile p).reverse = t := by
  refine ⟨Trimmed.eq, ?_⟩
  rintro rfl
  exact trimmed_dropWhile p s

end Ends

/-! ## 2. Blanks -/

section Blanks

variable {s : String}

theorem toList_trim (s : String) : (trim s).toList = ((s.toList.dropWhile isBlank).reverse.dropWhile isBlank).reverse :=
  String.toList_ofList

/-- Trimming takes the blanks off. -/
theorem trimmed_trim (s : String) : Trimmed isBlank s.toList (trim s).toList := trimmed_iff.mpr (toList_trim s).symm

theorem trim_eq_of_trimmed {t : String} (h : Trimmed isBlank s.toList t.toList) : trim s = t := by
  rw [← String.toList_inj, toList_trim]
  exact h.eq

/-- **Nothing is left of a text just when it is made of blanks.** -/
theorem trim_eq_empty_iff : trim s = "" ↔ ∀ c ∈ s.toList, isBlank c = true := by
  rw [← String.toList_inj, toList_trim, ← trimmed_iff]
  constructor
  · rintro ⟨⟨before, after, hs, hbefore, hafter⟩, -, -⟩ c hc
    rw [hs] at hc
    rcases List.mem_append.mp hc with hc | hc
    · exact hbefore c hc
    · exact hafter c hc
  · intro h
    have hnone : ∀ c ∈ ([] : List Char), isBlank c = true := fun c hc => absurd hc List.not_mem_nil
    exact ⟨⟨s.toList, [], (List.append_nil _).symm, h, hnone⟩, (fun c hc => nomatch hc), fun c hc => nomatch hc⟩

end Blanks

end FragmentSearch.Text
