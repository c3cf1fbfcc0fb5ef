import FragmentSearch.Proofs.Index.Views
import FragmentSearch.Proofs.Text.Pieces

/-!
# Where tokens come from

* `flatten_nameParts` -- a name is cut into its parts without a loss;
* `exists_of_mem_nameTokens`, `exists_of_mem_tokenize` -- a token of a name is a stretch of it in lower case, and a word
  of a text a stretch of the text;
* `Fragment.exists_of_mem_tokens` -- so each token of an ASCII fragment is a stretch of its name, its signature, its
  documentation or its content, in lower case.
-/

namespace FragmentSearch

open FragmentSearch.Text

/-! ## 1. Tokens of a name -/

section Names

variable {w s : String} {part cs : List Char}

/-- A character starts a part or joins the first part of the rest. -/
theorem nameParts_cons_cons {a b : Char} {part : List Char} {parts : List (List Char)}
    (h : nameParts (b :: cs) = part :: parts) :
    nameParts (a :: b :: cs) = if isPartEnd a b cs then [a] :: part :: parts else (a :: part) :: parts :=
  nameParts.eq_2 a b cs part parts h

theorem flatten_nameParts (cs : List Char) : (nameParts cs).flatten = cs := by
  induction cs with
  | nil => rfl
  | cons a r ih =>
      cases r with
      | nil => rfl
      | cons b s =>
          cases e : nameParts (b :: s) with
          | nil =>
              rw [e] at ih
              cases ih
          | cons part parts =>
              have hjoin : (part :: parts).flatten = b :: s := e ▸ ih
              rw [nameParts_cons_cons e]
              split
              · exact congrArg (a :: ·) hjoin
              · exact congrArg (a :: ·) hjoin

theorem infix_of_mem_nameParts (h : part ∈ nameParts cs) : part <:+: cs := by
  have := List.infix_of_mem_flatten h
  rwa [flatten_nameParts] at this

/-- A token of a name is a stretch of it in lower case. -/
theorem exists_of_mem_nameTokens (h : w ∈ nameTokens s) : ∃ u, u <:+: s.toList ∧ w = lowered u := by
  unfold nameTokens at h
  split at h
  · exact nomatch h
  · rw [List.cons_append, List.mem_cons, List.mem_append, List.mem_map] at h
    rcases h with rfl | ⟨chunk, hchunk, rfl⟩ | h
    · exact ⟨s.toList, List.infix_rfl, congrArg lower String.ofList_toList.symm⟩
    · exact ⟨chunk, mem_splitAt (List.mem_filter.mp hchunk).1, rfl⟩
    · obtain ⟨chunk, hchunk, hpart⟩ := List.mem_flatMap.mp h
      obtain ⟨part, hmem, rfl⟩ := List.mem_map.mp hpart
      exact ⟨part, (infix_of_mem_nameParts hmem).trans (mem_splitAt hchunk), rfl⟩

end Names

/-! ## 2. Words of a text -/

section Words

variable {w : String}

theorem exists_of_mem_tokenize {s : String} (h : w ∈ tokenize s) : ∃ u, u <:+: s.toList ∧ w = String.ofList u := by
  obtain ⟨u, hu, rfl⟩ := List.mem_map.mp h
  exact ⟨u, (mem_splitWhere hu).2, rfl⟩

theorem mem_tokenize? {o : Option String} (h : w ∈ tokenize? o) : ∃ s ∈ o, w ∈ tokenize s := by
  cases o with
  | none => exact nomatch h
  | some s => exact ⟨s, rfl, h⟩

/-- A content gives the words of a text or none. -/
theorem mem_contentTokens {o : Option String} (h : w ∈ contentTokens o) : ∃ s ∈ o, w ∈ tokenize s := by
  cases o with
  | none => exact nomatch h
  | some s =>
      unfold contentTokens at h
      split at h
      · next e =>
          split at h
          · exact ⟨_, e, h⟩
          · exact nomatch h
      · next e => cases e

end Words

/-! ## 3. Tokens of a fragment -/

namespace Fragment

variable {f : Fragment} {s t w : String}

/-- The texts from which tokens are taken. -/
def texts (f : Fragment) : List String :=
  f.name.toList ++ f.signature.toList ++ f.documentation.toList ++ f.content.toList

theorem mem_texts : s ∈ f.texts ↔ s ∈ f.name ∨ s ∈ f.signature ∨ s ∈ f.documentation ∨ s ∈ f.content := by
  unfold texts
  simp only [List.mem_append, Option.mem_toList, or_assoc, Option.mem_def]

/-- A source of tokens is a stretch of a text, in lower case or not. -/
theorem exists_of_mem_tokenSources (h : w ∈ f.tokenSources) :
    ∃ s ∈ f.texts, ∃ u, u <:+: s.toList ∧ (w = lowered u ∨ w = String.ofList u) := by
  have hwords : ∀ s ∈ f.texts, w ∈ tokenize s → ∃ s ∈ f.texts, ∃ u, u <:+: s.toList ∧ (w = lowered u ∨ w = String.ofList u) := by
    intro s hs hw
    obtain ⟨u, hu, e⟩ := exists_of_mem_tokenize hw
    exact ⟨s, hs, u, hu, Or.inr e⟩
  unfold tokenSources at h
  rw [List.mem_append, List.mem_append, List.mem_append, or_assoc, or_assoc] at h
  rcases h with h | h | h | h
  · cases hname : f.name with
    | none =>
        rw [hname] at h
        exact nomatch h
    | some name =>
        rw [hname] at h
        obtain ⟨u, hu, e⟩ := exists_of_mem_nameTokens h
        exact ⟨name, mem_texts.mpr (Or.inl hname), u, hu, Or.inl e⟩
  · obtain ⟨s, hs, hw⟩ := mem_tokenize? h
    exact hwords s (mem_texts.mpr (Or.inr (Or.inl hs))) hw
  · obtain ⟨s, hs, hw⟩ := mem_tokenize? h
    exact hwords s (mem_texts.mpr (Or.inr (Or.inr (Or.inl hs)))) hw
  · obtain ⟨s, hs, hw⟩ := mem_contentTokens h
    exact hwords s (mem_texts.mpr (Or.inr (Or.inr (Or.inr hs)))) hw

theorem toList_lowered {u : List Char} (h : IsAscii u) : (lowered u).toList = u.map Char.toLower := by
  have hu : IsAscii (String.ofList u).toList := by rwa [String.toList_ofList]
  rw [lowered, toList_lower hu, String.toList_ofList]

/-- **Where the tokens of an ASCII fragment come from.** -/
theorem exists_of_mem_tokens (hascii : ∀ s ∈ f.texts, IsAscii s.toList) (h : t ∈ f.tokens) :
    ∃ s ∈ f.texts, ∃ u, u <:+: s.toList ∧ t.toList = u.map Char.toLower := by
  obtain ⟨w, hw, rfl⟩ := List.mem_map.mp (mem_distinct.mp h)
  obtain ⟨s, hs, u, hu, e⟩ := exists_of_mem_tokenSources (List.mem_filter.mp hw).1
  have hu' : IsAscii u := (hascii s hs).of_stretch hu
  refine ⟨s, hs, u, hu, ?_⟩
  rcases e with rfl | rfl
  · -- what is in lower case already stays as it is
    have hlow : IsAscii (lowered u).toList := by
      rw [toList_lowered hu']
      exact hu'.map_toLower
    rw [toList_lower hlow, toList_lowered hu', hu'.map_toLower_twice]
  · exact toList_lowered hu'

end Fragment

end FragmentSearch
