import FragmentSearch.Proofs.Index.Search
import FragmentSearch.Proofs.Index.Tokens
import FragmentSearch.Proofs.Ranking.Matching

/-!
# A search by tokens and the full scan

A search by tokens looks words up in the index, the ranking by keyword goes through all fragments and looks for the words
in one text of each. For ASCII fragments with a content that is short enough for this text, the search finds no
fragment that the scan would pass over.

* `infix_searchableText` -- the texts from which tokens are taken stand in the text that is searched;
* `occursIn_of_mem_tokens` -- so every token occurs in it;
* `search_within_scan` -- and what a search finds, a scan finds.
-/

namespace FragmentSearch

open FragmentSearch.Text

/-! ## 1. The text that is searched -/

namespace Keyword

section Texts

variable {f : Fragment} {name s : String} {o : Option String}

/-- The stretches of which the text consists. -/
def stretches (name : String) (f : Fragment) : List (List Char) :=
  [name.toList, [' '], (part f.signature).toList, (part f.documentation).toList, (preview f.content).toList]

theorem toList_searchableText (name : String) (f : Fragment) :
    (searchableText name f).toList = (stretches name f).flatten := by
  have hblank : " ".toList = [' '] := rfl
  unfold searchableText stretches
  simp only [String.toList_append, hblank, List.flatten_cons, List.flatten_nil, List.append_nil, List.append_assoc]

theorem prefix_part (h : s ∈ o) : s.toList <+: (part o).toList := by
  obtain rfl : o = some s := h
  have e : (part (some s)).toList = s.toList ++ " ".toList := String.toList_append
  rw [e]
  exact List.prefix_append _ _

/-- A content that is short enough is searched as a whole. -/
theorem toList_preview (h : s ∈ o) (hlength : s.length ≤ previewLength) : (preview o).toList = s.toList := by
  obtain rfl : o = some s := h
  have htake : s.toList.take previewLength = s.toList := List.take_of_length_le (String.length_toList.trans_le hlength)
  show (String.ofList (s.toList.take previewLength)).toList = s.toList
  rw [String.toList_ofList, htake]

/-- **What tokens are taken from stands in the text that is searched.** -/
theorem infix_searchableText (hname : f.name = some name) (hshort : ∀ s ∈ f.content, s.length ≤ previewLength)
    (hs : s ∈ f.texts) : s.toList <:+: (searchableText name f).toList := by
  have hpiece : ∃ piece ∈ stretches name f, s.toList <:+: piece := by
    unfold stretches
    rcases Fragment.mem_texts.mp hs with h | h | h | h
    · obtain rfl : name = s := Option.some.inj (hname.symm.trans h)
      exact ⟨name.toList, by simp, List.infix_rfl⟩
    · exact ⟨(part f.signature).toList, by simp, (prefix_part h).isInfix⟩
    · exact ⟨(part f.documentation).toList, by simp, (prefix_part h).isInfix⟩
    · exact ⟨(preview f.content).toList, by simp, (toList_preview h (hshort s h)).symm ▸ List.infix_rfl⟩
  obtain ⟨piece, hpiece, hinfix⟩ := hpiece
  rw [toList_searchableText]
  exact hinfix.trans (List.infix_of_mem_flatten hpiece)

theorem isAscii_part (h : ∀ s ∈ o, IsAscii s.toList) : IsAscii (part o).toList := by
  cases o with
  | none => exact fun c hc => nomatch hc
  | some s =>
      have e : (part (some s)).toList = s.toList ++ " ".toList := String.toList_append
      rw [e]
      exact (h s rfl).append (by decide)

theorem isAscii_preview (h : ∀ s ∈ o, IsAscii s.toList) : IsAscii (preview o).toList := by
  cases o with
  | none => exact fun c hc => nomatch hc
  | some s =>
      have e : (preview (some s)).toList = s.toList.take previewLength := String.toList_ofList
      rw [e]
      exact (h s rfl).of_stretch (List.take_prefix _ _).isInfix

theorem isAscii_searchableText (hname : f.name = some name) (hascii : ∀ s ∈ f.texts, IsAscii s.toList) :
    IsAscii (searchableText name f).toList := by
  have hpieces : ∀ piece ∈ stretches name f, IsAscii piece := by
    have hsource : ∀ s, s ∈ f.name ∨ s ∈ f.signature ∨ s ∈ f.documentation ∨ s ∈ f.content → IsAscii s.toList :=
      fun s h => hascii s (Fragment.mem_texts.mpr h)
    unfold stretches
    simp only [List.forall_mem_cons]
    exact ⟨hsource name (Or.inl hname), by decide, isAscii_part fun s h => hsource s (Or.inr (Or.inl h)),
      isAscii_part fun s h => hsource s (Or.inr (Or.inr (Or.inl h))),
      isAscii_preview fun s h => hsource s (Or.inr (Or.inr (Or.inr h))), fun _ h => nomatch h⟩
  intro c hc
  rw [toList_searchableText] at hc
  obtain ⟨piece, hpiece, hc⟩ := List.mem_flatten.mp hc
  exact hpieces piece hpiece c hc

end Texts

end Keyword

/-! ## 2. Tokens are found by a scan -/

namespace Fragment

/-- All texts of a fragment are ASCII, and its content, if it has one, is searched as a whole. -/
structure IsPlain (f : Fragment) : Prop where
  ascii : ∀ s ∈ f.texts, IsAscii s.toList
  short : ∀ s ∈ f.content, s.length ≤ 500

variable {f : Fragment} {name token : String}

/-- **Every token occurs in the text that is searched.** -/
theorem occursIn_of_mem_tokens (hf : f.IsPlain) (hname : f.name = some name) (h : token ∈ f.tokens) :
    occursIn token (lower (Keyword.searchableText name f)) = true := by
  obtain ⟨s, hs, u, hu, e⟩ := exists_of_mem_tokens hf.ascii h
  have hstretch : u <:+: (Keyword.searchableText name f).toList :=
    hu.trans (Keyword.infix_searchableText hname hf.short hs)
  rw [occursIn_iff, e, toList_lower (Keyword.isAscii_searchableText hname hf.ascii)]
  exact hstretch.map Char.toLower

end Fragment

/-! ## 3. The search and the scan -/

namespace Index

variable {resolves : Bool} {fs : List Fragment} {f : Fragment} {query : String}

/-- Of fragments with different ids, those are found that have a term among their tokens. -/
theorem exists_token_of_mem_search (hids : (fs.map (·.id)).Nodup) (h : f ∈ (ofFragments resolves fs).search query) :
    f ∈ fs ∧ ∃ term ∈ queryTerms query, term ∈ f.tokens := by
  obtain ⟨term, hterm, g, hg, hid, htoken⟩ := mem_ids_search.mp (List.mem_map_of_mem h)
  have hf : (ofFragments resolves fs).get? f.id = some f := get?_of_mem_search h
  have hg' : (ofFragments resolves fs).get? f.id = some g := hid ▸ get?_of_mem hids hg
  obtain rfl : f = g := Option.some.inj (hf.symm.trans hg')
  exact ⟨hg, term, hterm, htoken⟩

/-- **A search by tokens finds nothing that a scan would not find.** For a fragment with a name, ASCII texts and no more
than 500 characters of content, each token occurs in the text that is searched. So for a set of such fragments with
different ids, whatever the query, each fragment that the search finds has a term of the query in this text, and is among
those that the ranking by keyword keeps. -/
theorem search_within_scan :
    (∀ (f : Fragment) name, f.name = some name → f.IsPlain →
      ∀ token ∈ f.tokens, occursIn token (lower (Keyword.searchableText name f)) = true) ∧
    ∀ resolves (fs : List Fragment) query, (∀ f ∈ fs, f.name ≠ none ∧ f.IsPlain) → (fs.map (·.id)).Nodup →
      (∀ f ∈ (ofFragments resolves fs).search query, ∃ name, f.name = some name ∧
        ∃ term ∈ queryTerms query, occursIn term (lower (Keyword.searchableText name f)) = true) ∧
      ∀ y : Yardstick ℚ, ∃ t, Keyword.table y (ofFragments resolves fs) query = .ok t ∧
        ∀ f ∈ (ofFragments resolves fs).search query, f ∈ Hybrid.fragmentsOf t := by
  refine ⟨fun f name hname hf token => f.occursIn_of_mem_tokens hf hname, fun resolves fs query hfs hids => ?_⟩
  have hfound : ∀ f ∈ (ofFragments resolves fs).search query, f ∈ fs ∧ ∃ name, f.name = some name ∧
      ∃ term ∈ queryTerms query, occursIn term (lower (Keyword.searchableText name f)) = true := by
    intro f hf
    obtain ⟨hmem, term, hterm, htoken⟩ := exists_token_of_mem_search hids hf
    obtain ⟨hnamed, hplain⟩ := hfs f hmem
    obtain ⟨name, hname⟩ := Option.ne_none_iff_exists'.mp hnamed
    exact ⟨hmem, name, hname, term, hterm, Fragment.occursIn_of_mem_tokens hplain hname htoken⟩
  refine ⟨fun f hf => (hfound f hf).2, fun y => ?_⟩
  have hfragments : (ofFragments resolves fs).fragments = fs := fragments_ofFragments resolves fs
  have hnamed : ∀ f ∈ (ofFragments resolves fs).fragments, f.name ≠ none := by
    rw [hfragments]
    exact fun f hf => (hfs f hf).1
  obtain ⟨t, ht, hkept⟩ := Keyword.mem_ids_table y query hnamed
  refine ⟨t, ht, fun f hf => ?_⟩
  obtain ⟨hmem, name, hname, term, hterm, hoccurs⟩ := hfound f hf
  rw [Keyword.mem_fragmentsOf_table ht hkept (by rwa [hfragments]) (by rwa [hfragments])]
  exact ⟨name, hname, term, hterm, Or.inr (Or.inr hoccurs)⟩

/-- A method with all its texts. -/
def getter : Fragment :=
  { Index.member "g" "get_userName" [] with
    signature := some "def get_userName(self)", documentation := some "Who is it?", content := some "return self.HTTPUser" }

/-- The method is found by a part of its name and by a word of its content, and the scan keeps it. -/
theorem search_within_scan_getter :
    (∀ token ∈ getter.tokens, occursIn token (lower (Keyword.searchableText "get_userName" getter)) = true) ∧
    getter ∈ (ofFragments true [Keyword.saver, getter]).search "USER httpuser" ∧
    ∃ t, Keyword.table Keyword.literal (ofFragments true [Keyword.saver, getter]) "USER httpuser" = .ok t ∧
      getter ∈ Hybrid.fragmentsOf t := by
  have hplain : ∀ f ∈ [Keyword.saver, getter], f.name ≠ none ∧ f.IsPlain := by
    have hascii : ∀ f ∈ [Keyword.saver, getter], f.name ≠ none ∧ ∀ s ∈ f.texts, IsAscii s.toList := by decide +kernel
    have hshort : ∀ f ∈ [Keyword.saver, getter], ∀ s ∈ f.content, s.length ≤ 500 := by decide +kernel
    exact fun f hf => ⟨(hascii f hf).1, (hascii f hf).2, hshort f hf⟩
  have hids : ([Keyword.saver, getter].map (·.id)).Nodup := by decide
  have hget : getter ∈ (ofFragments true [Keyword.saver, getter]).search "USER httpuser" := by
    have htoken : ∃ t ∈ queryTerms "USER httpuser", HasToken [Keyword.saver, getter] "g" t := by decide +kernel
    have hid : "g" ∈ ((ofFragments true [Keyword.saver, getter]).search "USER httpuser").map (·.id) := mem_ids_search.mpr htoken
    obtain ⟨f, hf, hid⟩ := List.mem_map.mp hid
    have hmem : f ∈ [Keyword.saver, getter] := (exists_token_of_mem_search hids hf).1
    obtain rfl : f = getter := by
      rcases List.mem_cons.mp hmem with rfl | hmem
      · exact absurd hid (by decide)
      · exact List.mem_singleton.mp hmem
    exact hf
  obtain ⟨htokens, hsearch⟩ := search_within_scan
  obtain ⟨_, htable⟩ := hsearch true [Keyword.saver, getter] "USER httpuser" hplain hids
  obtain ⟨t, ht, hkept⟩ := htable Keyword.literal
  exact ⟨htokens getter "get_userName" rfl (hplain getter (by simp)).2, hget, t, ht, hkept getter hget⟩

end Index

end FragmentSearch
