import FragmentSearch.Proofs.Index.Views
import FragmentSearch.Proofs.Ranking.Degradation
import FragmentSearch.Proofs.Text.Pieces
import Mathlib.Algebra.Order.Field.Basic
import Mathlib.Tactic.Linarith
import Mathlib.Tactic.Positivity

/-!
# What the ranking by keyword keeps

The scores of the ranking by keyword are read over the rational numbers here.

* `Checked` -- arithmetic in which a division by zero has no value. The terms of a query are not empty, so a score
  computed in it is the score (`scoreTerms_checked`);
* `addTerm_eq` -- a term adds what it gains, and the factor of the kind goes on everything so far. A gain is positive
  exactly if the term matches (`gain_pos_iff`);
* `foldl_pos_iff`, `foldl_le_foldl` -- so after all terms the score is positive exactly if one of them matched, and it
  does not fall when terms are put in anywhere;
* `mem_ids_table` -- the score table has the fragments that match.
-/

namespace FragmentSearch

open FragmentSearch.Text

/-! ## 1. Arithmetic that can fail -/

/-- A rational number, or none if a division by zero was made on the way to it. -/
structure Checked where
  value? : Option ℚ

namespace Checked

/-- A number that is there. -/
def of (s : ℚ) : Checked := ⟨some s⟩

/-- An operation that needs both of its numbers. -/
def combine (op : ℚ → ℚ → Option ℚ) (a b : Checked) : Checked :=
  ⟨a.value?.bind fun s => b.value?.bind fun t => op s t⟩

instance instScoreChecked : Score Checked where
  add := combine fun s t => some (s + t)
  sub := combine fun s t => some (s - t)
  mul := combine fun s t => some (s * t)
  div := combine fun s t => if t = 0 then none else some (s / t)
  lt a b := (a.value?.any fun s => b.value?.any fun t => decide (s < t)) = true
  natCast n := of n
  ofScientific m negative e := of (OfScientific.ofScientific m negative e)
  decideLt _ _ := inferInstance

theorem of_div (s : ℚ) {t : ℚ} (ht : t ≠ 0) : of s / of t = of (s / t) := congrArg mk (if_neg ht)

theorem of_lt_iff (s t : ℚ) : of s < of t ↔ s < t := decide_eq_true_iff

end Checked

/-- The same similarities and logarithms. -/
def Yardstick.checked (y : Yardstick ℚ) : Yardstick Checked where
  similarity a b := .of (y.similarity a b)
  logarithm n := .of (y.logarithm n)

theorem toList_ne_nil_of_mem_queryTerms {query term : String} (h : term ∈ queryTerms query) : term.toList ≠ [] :=
  toList_ne_nil_of_mem_words h

namespace Keyword

variable {y : Yardstick ℚ} {term name text query : String} {terms : List String} {k : Kind} {f : Fragment} {s t : ℚ}

/-! ## 2. No division by zero -/

section Divisions

/-- A text in which a term was found is not empty. -/
theorem addText_checked (hterm : term.toList ≠ []) (s : ℚ) : addText term text (.of s) = Checked.of (addText term text s) := by
  unfold addText
  cases e : indexOf? term.toList text.toList with
  | none => rfl
  | some i =>
      have hroom := indexOf?_add_length_le e
      have hlength : text.length ≠ 0 := by
        rw [← String.length_toList]
        have := List.length_pos_iff.mpr hterm
        omega
      have hdiv : (Checked.of (i : ℚ)) / .of (text.length : ℚ) = .of ((i : ℚ) / (text.length : ℚ)) :=
        Checked.of_div _ (Nat.cast_ne_zero.mpr hlength)
      show Checked.of s + Checked.of 2.0 * (.of 1.0 + (.of 1.0 - .of (i : ℚ) / .of (text.length : ℚ))) = _
      rw [hdiv]
      rfl

theorem addName_checked (s : ℚ) : addName term name (.of s) = Checked.of (addName term name s) := by
  unfold addName
  split
  · rfl
  · split <;> rfl

theorem addSimilarity_checked (similarity s : ℚ) :
    addSimilarity (.of similarity) (.of s) = Checked.of (addSimilarity similarity s) := by
  unfold addSimilarity
  have hiff : ((0.8 : Checked) < .of similarity) ↔ ((0.8 : ℚ) < similarity) := Checked.of_lt_iff 0.8 similarity
  by_cases h : (0.8 : ℚ) < similarity
  · rw [if_pos h, if_pos (hiff.mpr h)]
    rfl
  · rw [if_neg h, if_neg (mt hiff.mp h)]

theorem kindFactor_checked (k : Kind) : kindFactor k = Checked.of (kindFactor k) := by cases k <;> rfl

/-- One term of a query. -/
theorem addTerm_checked (hterm : term.toList ≠ []) (s : ℚ) :
    addTerm y.checked name text k (.of s) term = Checked.of (addTerm y name text k s term) := by
  have hsim : y.checked.similarity term name = .of (y.similarity term name) := rfl
  unfold addTerm
  rw [hsim, addName_checked, addSimilarity_checked, addText_checked hterm, kindFactor_checked]
  rfl

theorem foldl_checked (hterms : ∀ term ∈ terms, term.toList ≠ []) (s : ℚ) :
    terms.foldl (addTerm y.checked name text k) (.of s) = Checked.of (terms.foldl (addTerm y name text k) s) := by
  induction terms generalizing s with
  | nil => rfl
  | cons term terms ih =>
      have hrest : ∀ term ∈ terms, term.toList ≠ [] := fun t ht => hterms t (List.mem_cons_of_mem _ ht)
      rw [List.foldl_cons, List.foldl_cons, addTerm_checked (hterms term List.mem_cons_self), ih hrest]

theorem termsScore_checked (hterms : ∀ term ∈ terms, term.toList ≠ []) (name : String) (f : Fragment) :
    termsScore y.checked terms name f = .of (termsScore y terms name f) := by
  have hfold : terms.foldl (addTerm y.checked (lower name) (lower (searchableText name f)) f.kind) (.of 0.0) =
      Checked.of (terms.foldl (addTerm y (lower name) (lower (searchableText name f)) f.kind) 0.0) := foldl_checked hterms 0.0
  have hzero : (0.0 : Checked) = .of (0.0 : ℚ) := rfl
  unfold termsScore
  rw [hzero, hfold]
  split <;> rfl

/-- **A score is computed without a division by zero.** -/
theorem scoreTerms_checked (hterms : ∀ term ∈ terms, term.toList ≠ []) (f : Fragment) :
    scoreTerms y.checked terms f = (scoreTerms y terms f).map .of := by
  unfold scoreTerms
  cases f.name with
  | none => rfl
  | some name => exact congrArg Except.ok (termsScore_checked hterms name f)

theorem relevance_checked (y : Yardstick ℚ) (query : String) (f : Fragment) :
    relevance y.checked query f = (relevance y query f).map .of := by
  have hten : (10.0 : ℚ) ≠ 0 := by norm_num
  unfold relevance
  rw [scoreTerms_checked fun _ h => toList_ne_nil_of_mem_queryTerms h]
  cases scoreTerms y (queryTerms query) f with
  | error e => rfl
  | ok s => exact congrArg Except.ok (Checked.of_div s hten)

end Divisions

/-! ## 3. What a term gains -/

section Gains

/-- A term matches: it occurs in the name or in the text that is searched, or the name is similar to it. -/
def Matches (y : Yardstick ℚ) (name text term : String) : Prop :=
  occursIn term name = true ∨ 0.8 < y.similarity term name ∨ occursIn term text = true

/-- What a term gains by the name. -/
def nameGain (term name : String) : ℚ := if name = term then 10 else if occursIn term name then 5 else 0

/-- What a term gains by a similarity. -/
def similarityGain (similarity : ℚ) : ℚ := if 0.8 < similarity then similarity * 3 else 0

/-- What a term gains by its first place in the text. -/
def textGain (term text : String) : ℚ :=
  match indexOf? term.toList text.toList with
  | some i => 2 * (1 + (1 - i / text.length))
  | none => 0

/-- What a term gains. -/
def gain (y : Yardstick ℚ) (name text term : String) : ℚ :=
  nameGain term name + similarityGain (y.similarity term name) + textGain term text

theorem occursIn_self (s : String) : occursIn s s = true := occursIn_iff.mpr List.infix_rfl

theorem nameGain_nonneg : 0 ≤ nameGain term name := by
  unfold nameGain
  split_ifs <;> norm_num

theorem nameGain_pos_iff : 0 < nameGain term name ↔ occursIn term name = true := by
  unfold nameGain
  split_ifs with he ho
  · rw [he]
    exact iff_of_true (by norm_num) (occursIn_self term)
  · exact iff_of_true (by norm_num) ho
  · exact iff_of_false (lt_irrefl 0) ho

theorem similarityGain_nonneg : 0 ≤ similarityGain s := by
  unfold similarityGain
  split_ifs with h
  · have : 0 < s := lt_trans (by norm_num) h
    positivity
  · exact le_rfl

theorem similarityGain_pos_iff : 0 < similarityGain s ↔ 0.8 < s := by
  unfold similarityGain
  split_ifs with h
  · have : 0 < s := lt_trans (by norm_num) h
    exact iff_of_true (by positivity) h
  · exact iff_of_false (lt_irrefl 0) h

/-- A term that was found gains at least 2, wherever it was found. -/
theorem two_le_textGain {i : Nat} (h : indexOf? term.toList text.toList = some i) : 2 ≤ textGain term text := by
  have hroom := indexOf?_add_length_le h
  have hi : (i : ℚ) ≤ text.length := by
    rw [← String.length_toList]
    exact Nat.cast_le.mpr (by omega)
  have hshare : (i : ℚ) / text.length ≤ 1 := div_le_one_of_le₀ hi (Nat.cast_nonneg _)
  unfold textGain
  rw [h]
  show (2 : ℚ) ≤ 2 * (1 + (1 - i / text.length))
  linarith

theorem textGain_nonneg : 0 ≤ textGain term text := by
  cases h : indexOf? term.toList text.toList with
  | some i => exact le_trans zero_le_two (two_le_textGain h)
  | none =>
      unfold textGain
      rw [h]

theorem textGain_pos_iff : 0 < textGain term text ↔ occursIn term text = true := by
  unfold occursIn
  cases h : indexOf? term.toList text.toList with
  | some i => exact iff_of_true (lt_of_lt_of_le two_pos (two_le_textGain h)) rfl
  | none =>
      refine iff_of_false ?_ Bool.false_ne_true
      unfold textGain
      rw [h]
      exact lt_irrefl 0

theorem gain_nonneg : 0 ≤ gain y name text term :=
  add_nonneg (add_nonneg nameGain_nonneg similarityGain_nonneg) textGain_nonneg

/-- **A term gains something exactly if it matches.** -/
theorem gain_pos_iff : 0 < gain y name text term ↔ Matches y name text term := by
  have hname : 0 ≤ nameGain term name := nameGain_nonneg
  have hsim : 0 ≤ similarityGain (y.similarity term name) := similarityGain_nonneg
  have htext : 0 ≤ textGain term text := textGain_nonneg
  unfold Matches
  rw [← nameGain_pos_iff, ← similarityGain_pos_iff, ← textGain_pos_iff]
  unfold gain
  constructor
  · intro h
    by_contra hnone
    rw [not_or, not_or, not_lt, not_lt, not_lt] at hnone
    obtain ⟨h1, h2, h3⟩ := hnone
    linarith
  · rintro (h | h | h) <;> linarith

end Gains

/-! ## 4. One term -/

section Steps

theorem one_le_kindFactor (k : Kind) : (1 : ℚ) ≤ kindFactor k := by
  cases k
  case classKind => exact (by norm_num : (1 : ℚ) ≤ 1.2)
  case method => exact (by norm_num : (1 : ℚ) ≤ 1.1)
  all_goals exact (by norm_num : (1 : ℚ) ≤ 1.0)

theorem addName_eq (s : ℚ) : addName term name s = s + nameGain term name := by
  have hten : s + 10.0 = s + 10 := by norm_num
  have hfive : s + 5.0 = s + 5 := by norm_num
  unfold addName nameGain
  split_ifs
  · exact hten
  · exact hfive
  · exact (add_zero s).symm

theorem addSimilarity_eq (similarity s : ℚ) : addSimilarity similarity s = s + similarityGain similarity := by
  have hthree : s + similarity * 3.0 = s + similarity * 3 := by norm_num
  unfold addSimilarity similarityGain
  split_ifs
  · exact hthree
  · exact (add_zero s).symm

theorem addText_eq (s : ℚ) : addText term text s = s + textGain term text := by
  unfold addText textGain
  cases indexOf? term.toList text.toList with
  | none => exact (add_zero s).symm
  | some i =>
      have hplaces : s + 2.0 * (1.0 + (1.0 - (i : ℚ) / text.length)) = s + 2 * (1 + (1 - i / text.length)) := by norm_num
      exact hplaces

/-- **One more term**: what it gains is added, and the factor of the kind goes on all of it. -/
theorem addTerm_eq (s : ℚ) : addTerm y name text k s term = (s + gain y name text term) * kindFactor k := by
  unfold addTerm gain
  rw [addName_eq, addSimilarity_eq, addText_eq, ← add_assoc, ← add_assoc]

theorem le_addTerm (hs : 0 ≤ s) : s ≤ addTerm y name text k s term := by
  have hgain : 0 ≤ gain y name text term := gain_nonneg
  rw [addTerm_eq]
  calc s ≤ s + gain y name text term := le_add_of_nonneg_right hgain
    _ ≤ (s + gain y name text term) * kindFactor k :=
      le_mul_of_one_le_right (add_nonneg hs hgain) (one_le_kindFactor k)

theorem addTerm_le_addTerm (hst : s ≤ t) : addTerm y name text k s term ≤ addTerm y name text k t term := by
  rw [addTerm_eq, addTerm_eq]
  exact mul_le_mul_of_nonneg_right (add_le_add_left hst _) (le_trans zero_le_one (one_le_kindFactor k))

theorem addTerm_pos_iff (hs : 0 ≤ s) : 0 < addTerm y name text k s term ↔ 0 < s ∨ Matches y name text term := by
  have hgain : 0 ≤ gain y name text term := gain_nonneg
  have hfactor : (0 : ℚ) < kindFactor k := lt_of_lt_of_le one_pos (one_le_kindFactor k)
  rw [addTerm_eq, ← gain_pos_iff]
  refine (mul_pos_iff_of_pos_right hfactor).trans ⟨fun h => ?_, fun h => ?_⟩
  · by_contra hnone
    rw [not_or, not_lt, not_lt] at hnone
    linarith [hnone.1, hnone.2]
  · rcases h with h | h
    · exact add_pos_of_pos_of_nonneg h hgain
    · exact add_pos_of_nonneg_of_pos hs h

end Steps

/-! ## 5. All terms -/

section Terms

/-- The score stays positive from the first term that matches. -/
theorem foldl_pos_iff (hs : 0 ≤ s) :
    0 < terms.foldl (addTerm y name text k) s ↔ 0 < s ∨ ∃ term ∈ terms, Matches y name text term := by
  induction terms generalizing s with
  | nil => exact ⟨Or.inl, fun h => h.resolve_right fun ⟨_, hmem, _⟩ => nomatch hmem⟩
  | cons term terms ih =>
      rw [List.foldl_cons, ih (le_trans hs (le_addTerm hs)), addTerm_pos_iff hs, or_assoc, List.exists_mem_cons_iff]

/-- **More terms, anywhere among the others, do not lower the score.** -/
theorem foldl_le_foldl {terms' : List String} (h : terms.Sublist terms') (hs : 0 ≤ s) (hst : s ≤ t) :
    terms.foldl (addTerm y name text k) s ≤ terms'.foldl (addTerm y name text k) t := by
  induction h generalizing s t with
  | slnil => exact hst
  | cons term _ ih =>
      -- this term is in the longer query only
      have ht : 0 ≤ t := le_trans hs hst
      exact ih hs (le_trans hst (le_addTerm ht))
  | cons_cons term _ ih => exact ih (le_trans hs (le_addTerm hs)) (addTerm_le_addTerm hst)

/-- The factor of a documented fragment. -/
def documentFactor (f : Fragment) : ℚ := if f.isDocumented then 1.1 else 1

theorem documentFactor_pos (f : Fragment) : 0 < documentFactor f := by
  unfold documentFactor
  split_ifs <;> norm_num

theorem termsScore_eq (y : Yardstick ℚ) (terms : List String) (name : String) (f : Fragment) :
    termsScore y terms name f =
      terms.foldl (addTerm y (lower name) (lower (searchableText name f)) f.kind) 0 * documentFactor f := by
  have hzero : (0.0 : ℚ) = 0 := by norm_num
  unfold termsScore documentFactor
  split_ifs
  · exact congrArg (fun z : ℚ => terms.foldl (addTerm y _ _ _) z * 1.1) hzero
  · exact (congrArg (fun z : ℚ => terms.foldl (addTerm y _ _ _) z) hzero).trans (mul_one _).symm

/-- Some term of a query matches the fragment by its name, which must be there, and the text that is searched. -/
def Meets (y : Yardstick ℚ) (query : String) (f : Fragment) : Prop :=
  ∃ name, f.name = some name ∧ ∃ term ∈ queryTerms query, Matches y (lower name) (lower (searchableText name f)) term

theorem termsScore_pos_iff (hname : f.name = some name) : 0 < termsScore y (queryTerms query) name f ↔ Meets y query f := by
  rw [termsScore_eq, mul_pos_iff_of_pos_right (documentFactor_pos f), foldl_pos_iff le_rfl, or_iff_right (lt_irrefl _)]
  refine ⟨fun h => ⟨name, hname, h⟩, ?_⟩
  rintro ⟨name', hname', h⟩
  obtain rfl : name = name' := Option.some.inj (hname.symm.trans hname')
  exact h

theorem termsScore_le {terms' : List String} (h : terms.Sublist terms') (name : String) (f : Fragment) :
    termsScore y terms name f ≤ termsScore y terms' name f := by
  rw [termsScore_eq, termsScore_eq]
  exact mul_le_mul_of_nonneg_right (foldl_le_foldl h le_rfl le_rfl) (le_of_lt (documentFactor_pos f))

theorem scoreTerms_eq (terms : List String) (hname : f.name = some name) :
    scoreTerms y terms f = .ok (termsScore y terms name f) := by
  unfold scoreTerms
  rw [hname]

theorem scoreTerms_eq_ok (h : scoreTerms y terms f = .ok s) : ∃ name, s = termsScore y terms name f ∧ f.name = some name := by
  unfold scoreTerms at h
  split at h
  · next name hname => exact ⟨name, (Except.ok.inj h).symm, hname⟩
  · cases h

/-- No score is higher for fewer terms. -/
theorem scoreTerms_le {terms' : List String} (h : terms.Sublist terms') (hs : scoreTerms y terms f = .ok s)
    (ht : scoreTerms y terms' f = .ok t) : s ≤ t := by
  obtain ⟨name, rfl, hname⟩ := scoreTerms_eq_ok hs
  obtain ⟨name', rfl, hname'⟩ := scoreTerms_eq_ok ht
  obtain rfl : name = name' := Option.some.inj (hname.symm.trans hname')
  exact termsScore_le h name f

theorem relevance_eq_ok (h : relevance y query f = .ok s) : ∃ s', scoreTerms y (queryTerms query) f = .ok s' ∧ s' / 10 = s := by
  have hten : ∀ s : ℚ, s / 10.0 = s / 10 := fun s => by norm_num
  unfold relevance at h
  cases hs : scoreTerms y (queryTerms query) f with
  | error e =>
      rw [hs] at h
      cases h
  | ok s' =>
      rw [hs] at h
      exact ⟨s', rfl, (hten s').symm.trans (Except.ok.inj h)⟩

end Terms

/-! ## 6. The score table -/

section Tables

theorem enter_named (y : Yardstick ℚ) (query : String) (hname : f.name ≠ none) (t : ScoreTable ℚ) :
    ∃ t', enter y (queryTerms query) t f = .ok t' ∧
      ∀ id, id ∈ t'.ids ↔ id ∈ t.ids ∨ f.id = id ∧ Meets y query f := by
  obtain ⟨name, hname⟩ := Option.ne_none_iff_exists'.mp hname
  have hpos : (0.0 : ℚ) < termsScore y (queryTerms query) name f ↔ Meets y query f := by
    have hzero : (0.0 : ℚ) = 0 := by norm_num
    rw [hzero]
    exact termsScore_pos_iff hname
  unfold enter
  rw [scoreTerms_eq _ hname]
  refine ⟨_, rfl, fun id => ?_⟩
  split
  · next h => rw [ScoreTable.put, ScoreTable.mem_ids_adjust, and_iff_left (hpos.mp h)]
  · next h => exact ⟨Or.inl, fun h' => h'.resolve_right fun hid => h (hpos.mpr hid.2)⟩

/-- Entering named fragments adds the ids of those that match. -/
theorem foldlM_enter_named (y : Yardstick ℚ) (query : String) {fs : List Fragment} (hnamed : ∀ f ∈ fs, f.name ≠ none)
    (t : ScoreTable ℚ) : ∃ t', fs.foldlM (enter y (queryTerms query)) t = .ok t' ∧
      ∀ id, id ∈ t'.ids ↔ id ∈ t.ids ∨ ∃ f ∈ fs, f.id = id ∧ Meets y query f := by
  induction fs generalizing t with
  | nil => exact ⟨t, rfl, fun id => ⟨Or.inl, fun h => h.resolve_right fun ⟨_, hmem, _⟩ => nomatch hmem⟩⟩
  | cons f fs ih =>
      obtain ⟨t₁, ht₁, hids₁⟩ := enter_named y query (hnamed f List.mem_cons_self) t
      obtain ⟨t', ht', hids⟩ := ih (fun g hg => hnamed g (List.mem_cons_of_mem _ hg)) t₁
      refine ⟨t', ?_, fun id => ?_⟩
      · rw [List.foldlM_cons, ht₁]
        exact ht'
      · rw [hids, hids₁, or_assoc, List.exists_mem_cons_iff]

/-- **The score table of named fragments has the ids of those that match.** -/
theorem mem_ids_table (y : Yardstick ℚ) (query : String) {ix : Index} (hnamed : ∀ f ∈ ix.fragments, f.name ≠ none) :
    ∃ t, table y ix query = .ok t ∧ ∀ id, id ∈ t.ids ↔ ∃ f ∈ ix.fragments, f.id = id ∧ Meets y query f := by
  obtain ⟨t, ht, hids⟩ := foldlM_enter_named y query hnamed []
  exact ⟨t, ht, fun id => (hids id).trans (or_iff_right List.not_mem_nil)⟩

/-- If no two fragments have one id, the table has the fragments that match. -/
theorem mem_fragmentsOf_table {ix : Index} {t : ScoreTable ℚ} (ht : table y ix query = .ok t)
    (hids : ∀ id, id ∈ t.ids ↔ ∃ f ∈ ix.fragments, f.id = id ∧ Meets y query f) (hnodup : (ix.fragments.map (·.id)).Nodup)
    (hf : f ∈ ix.fragments) : f ∈ Hybrid.fragmentsOf t ↔ Meets y query f := by
  have hinj : ∀ g ∈ ix.fragments, g.id = f.id → g = f := fun g hg e => List.inj_on_of_nodup_map hnodup hg hf e
  have hknown : ∀ g ∈ Hybrid.fragmentsOf t, g ∈ ix.fragments := by
    rcases table_records y ix query with ⟨e, he, _⟩ | ⟨t', ht', hrecords⟩
    · rw [ht] at he
      cases he
    · obtain rfl : t = t' := Except.ok.inj (ht.symm.trans ht')
      exact Hybrid.known_fragmentsOf hrecords
  constructor
  · intro hmem
    have hid : f.id ∈ t.ids := by
      obtain ⟨e, he, rfl⟩ := List.mem_map.mp hmem
      exact List.mem_map.mpr ⟨e, he, rfl⟩
    obtain ⟨g, hg, e, hmeets⟩ := (hids f.id).mp hid
    exact hinj g hg e ▸ hmeets
  · intro hmeets
    obtain ⟨e, he, hid⟩ := List.mem_map.mp ((hids f.id).mpr ⟨f, hf, rfl, hmeets⟩)
    have hmem : e.fragment ∈ Hybrid.fragmentsOf t := List.mem_map.mpr ⟨e, he, rfl⟩
    exact hinj e.fragment (hknown _ hmem) hid ▸ hmem

end Tables

/-! ## 7. The scores as a whole -/

/-- **The scores of the ranking by keyword** over the rational numbers. For every fragment and query they are computed
without a division by zero. The score of a fragment with a name is positive exactly if a term of the query matches:
it occurs in the name or in the text that is searched, or the name is similar to it by more than 0.8. So the
table, from which the best are taken, has the ids of the fragments that match, and just those fragments if no two have
one id. If the terms of a query are among those of another one, in their order, no score is higher for the first. -/
theorem scores_exact (y : Yardstick ℚ) :
    (∀ query f, scoreTerms y.checked (queryTerms query) f = (scoreTerms y (queryTerms query) f).map .of ∧
      relevance y.checked query f = (relevance y query f).map .of) ∧
    (∀ query f, f.name ≠ none → ∃ s, scoreTerms y (queryTerms query) f = .ok s ∧ relevance y query f = .ok (s / 10) ∧
      (0 < s ↔ ∃ name, f.name = some name ∧ ∃ term ∈ queryTerms query, occursIn term (lower name) = true ∨
        0.8 < y.similarity term (lower name) ∨ occursIn term (lower (searchableText name f)) = true)) ∧
    (∀ query ix, (∀ f ∈ ix.fragments, f.name ≠ none) → ∃ t, table y ix query = .ok t ∧
      (∀ id, id ∈ t.ids ↔ ∃ f ∈ ix.fragments, f.id = id ∧ Meets y query f) ∧
      ((ix.fragments.map (·.id)).Nodup → ∀ f ∈ ix.fragments, f ∈ Hybrid.fragmentsOf t ↔ Meets y query f)) ∧
    (∀ q r f, (queryTerms q).Sublist (queryTerms r) →
      (∀ s t, scoreTerms y (queryTerms q) f = .ok s → scoreTerms y (queryTerms r) f = .ok t → s ≤ t) ∧
      ∀ s t, relevance y q f = .ok s → relevance y r f = .ok t → s ≤ t) := by
  refine ⟨fun query f => ⟨?_, relevance_checked y query f⟩, fun query f hname => ?_, fun query ix hnamed => ?_,
    fun q r f hsub => ⟨fun s t => scoreTerms_le hsub, fun s t hs ht => ?_⟩⟩
  · exact scoreTerms_checked (fun _ h => toList_ne_nil_of_mem_queryTerms h) f
  · obtain ⟨name, hname⟩ := Option.ne_none_iff_exists'.mp hname
    have hten : ∀ s : ℚ, s / 10.0 = s / 10 := fun s => by norm_num
    refine ⟨_, scoreTerms_eq _ hname, ?_, termsScore_pos_iff hname⟩
    unfold relevance
    rw [scoreTerms_eq _ hname]
    exact congrArg Except.ok (hten _)
  · obtain ⟨t, ht, hids⟩ := mem_ids_table y query hnamed
    exact ⟨t, ht, hids, fun hnodup f hf => mem_fragmentsOf_table ht hids hnodup hf⟩
  · obtain ⟨s', hs', rfl⟩ := relevance_eq_ok hs
    obtain ⟨t', ht', rfl⟩ := relevance_eq_ok ht
    exact div_le_div_of_nonneg_right (scoreTerms_le hsub hs' ht') (by norm_num)

/-- Names are similar only if they are equal. -/
def literal : Yardstick ℚ where
  similarity a b := if a = b then 1 else 0
  logarithm n := n

/-- A method that loads. -/
def loader : Fragment := Index.member "a" "loadFile" []

/-- A method that saves. -/
def saver : Fragment := Index.member "b" "save" []

/-- One method has a term of the query in its name, and one more term can only add to that; the other is left out. -/
theorem scores_exact_loader :
    (∃ s t, scoreTerms literal (queryTerms "file") loader = .ok s ∧
      scoreTerms literal (queryTerms "Load FILE") loader = .ok t ∧ 0 < s ∧ s ≤ t) ∧
    ∃ t, table literal (.ofFragments true [loader, saver]) "file" = .ok t ∧
      loader ∈ Hybrid.fragmentsOf t ∧ saver ∉ Hybrid.fragmentsOf t := by
  have hq : queryTerms "file" = ["file"] := by decide +kernel
  have hr : queryTerms "Load FILE" = ["load", "file"] := by decide +kernel
  have hloader : Meets literal "file" loader :=
    ⟨"loadFile", rfl, "file", hq ▸ List.mem_singleton_self _, Or.inl (by decide +kernel)⟩
  have hsaver : ¬ Meets literal "file" saver := by
    rintro ⟨name, hname, term, hterm, h⟩
    obtain rfl : "save" = name := Option.some.inj hname
    rw [hq] at hterm
    obtain rfl : term = "file" := List.mem_singleton.mp hterm
    rcases h with h | h | h
    · exact absurd h (by decide +kernel)
    · exact absurd h (by decide +kernel)
    · exact absurd h (by decide +kernel)
  obtain ⟨_, hscore, htable, hmore⟩ := scores_exact literal
  obtain ⟨s, hs, _, hpos⟩ := hscore "file" loader (by decide)
  obtain ⟨t, ht, _, _⟩ := hscore "Load FILE" loader (by decide)
  have hsub : (queryTerms "file").Sublist (queryTerms "Load FILE") := by
    rw [hq, hr]
    decide
  refine ⟨⟨s, t, hs, ht, hpos.mpr hloader, (hmore _ _ _ hsub).1 s t hs ht⟩, ?_⟩
  have hfragments : (Index.ofFragments true [loader, saver]).fragments = [loader, saver] := rfl
  obtain ⟨table, htable, _, hkept⟩ := htable "file" (.ofFragments true [loader, saver]) (by rw [hfragments]; decide)
  have hkept := hkept (by rw [hfragments]; decide)
  rw [hfragments] at hkept
  exact ⟨table, htable, (hkept loader (by simp)).mpr hloader, fun h => hsaver ((hkept saver (by simp)).mp h)⟩

end Keyword

end FragmentSearch
