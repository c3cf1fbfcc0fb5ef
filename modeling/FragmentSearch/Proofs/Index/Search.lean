import FragmentSearch.Index.Search
import FragmentSearch.Proofs.Index.Relations
import FragmentSearch.Proofs.Order.Stable

/-!
# What a search by tokens finds, and in which order

A search counts the hits of the terms one after the other in one table and sorts the table by the numbers of
hits. Both the numbers and the order of entry can be said of the fragments alone:

* `HasToken fs id t` -- a fragment with this id has the token `t`;
* `hitCount`, `firstHit` -- how many of the terms an id has as tokens, and the place of the first of them;
* `Counted` -- the invariant: after some terms, the table holds the ids with a hit, each with its number of
  hits, by their first hits and the ids hit by one term in their own order;
* `Sooner` -- the order of the results;
* `search_exact` -- so the results are determined by which ids have which tokens.
-/

namespace FragmentSearch.Index

variable {resolves : Bool} {fs : List Fragment} {terms : List String} {id t : String}

/-! ## 1. Hits of an id -/

/-- A fragment with this id has the token. -/
def HasToken (fs : List Fragment) (id t : String) : Prop := ∃ f ∈ fs, f.id = id ∧ t ∈ f.tokens

instance (fs : List Fragment) (id t : String) : Decidable (HasToken fs id t) :=
  inferInstanceAs (Decidable (∃ f ∈ fs, f.id = id ∧ t ∈ f.tokens))

/-- How many of the terms are tokens of an id, a repeated term counting again. -/
def hitCount (fs : List Fragment) (terms : List String) (id : String) : Nat := terms.countP (HasToken fs id ·)

/-- The place of the first term that is a token of an id. -/
def firstHit (fs : List Fragment) (terms : List String) (id : String) : Nat := terms.findIdx (HasToken fs id ·)

/-- Was `i` entered before `j`: its first hit comes earlier, or one term is the first hit of both. -/
def EnteredBefore (fs : List Fragment) (terms : List String) (i j : String) : Prop :=
  firstHit fs terms i < firstHit fs terms j ∨ firstHit fs terms i = firstHit fs terms j ∧ i < j

/-- Does `i` come before `j` in the results: it has more hits, or as many and was entered before. -/
def Sooner (fs : List Fragment) (terms : List String) (i j : String) : Prop :=
  hitCount fs terms j < hitCount fs terms i ∨
    hitCount fs terms i = hitCount fs terms j ∧ EnteredBefore fs terms i j

theorem hitCount_pos : 0 < hitCount fs terms id ↔ ∃ t ∈ terms, HasToken fs id t := by
  unfold hitCount
  rw [List.countP_pos_iff]
  simp only [decide_eq_true_eq]

theorem hitCount_snoc :
    hitCount fs (terms ++ [t]) id = hitCount fs terms id + if HasToken fs id t then 1 else 0 := by
  unfold hitCount
  rw [List.countP_append, List.countP_singleton]
  simp only [decide_eq_true_eq]

/-- The first hit stays where it is. -/
theorem firstHit_snoc_of_pos (h : 0 < hitCount fs terms id) :
    firstHit fs (terms ++ [t]) id = firstHit fs terms id ∧ firstHit fs terms id < terms.length := by
  obtain ⟨u, hu, hid⟩ := hitCount_pos.mp h
  have hlt : firstHit fs terms id < terms.length :=
    List.findIdx_lt_length_of_exists ⟨u, hu, decide_eq_true hid⟩
  refine ⟨?_, hlt⟩
  unfold firstHit at hlt ⊢
  rw [List.findIdx_append, if_pos hlt]

/-- An id that had no hit before has its first hit at the end. -/
theorem firstHit_snoc_of_zero (h : hitCount fs terms id = 0) (ht : HasToken fs id t) :
    firstHit fs (terms ++ [t]) id = terms.length := by
  have hnone : ∀ u ∈ terms, ¬ HasToken fs id u := fun u hu hid =>
    absurd (hitCount_pos.mpr ⟨u, hu, hid⟩) (by omega)
  have hlen : terms.findIdx (HasToken fs id ·) = terms.length :=
    List.findIdx_eq_length.mpr fun u hu => decide_eq_false (hnone u hu)
  unfold firstHit
  rw [List.findIdx_append, hlen, if_neg (Nat.lt_irrefl _), List.findIdx_cons, decide_eq_true ht]
  exact Nat.zero_add _

/-! ## 2. Counting -/

/-- The state of the table of hits after some terms. -/
structure Counted (fs : List Fragment) (terms : List String) (hits : Table String Nat) : Prop where
  /-- Every id with a hit has its number of hits. -/
  count : ∀ id, Table.get? id hits = if hitCount fs terms id = 0 then none else some (hitCount fs terms id)
  once : (Table.keys hits).Nodup
  order : (Table.keys hits).Pairwise (EnteredBefore fs terms)

theorem Counted.mem_keys {hits : Table String Nat} (h : Counted fs terms hits) :
    id ∈ Table.keys hits ↔ 0 < hitCount fs terms id := by
  rw [Table.mem_keys, h.count id]
  split
  · next h0 => exact ⟨fun ⟨_, h⟩ => (nomatch h), fun h => absurd h0 (Nat.ne_of_gt h)⟩
  · next h0 => exact ⟨fun _ => Nat.pos_of_ne_zero h0, fun _ => ⟨_, rfl⟩⟩

theorem counted_nil : Counted fs [] [] := ⟨fun _ => rfl, List.nodup_nil, .nil⟩

/-- **One term more**: the ids with this token count a hit, and those without a hit so far are entered. -/
theorem Counted.snoc {hits : Table String Nat} (h : Counted fs terms hits) (t : String) :
    Counted fs (terms ++ [t]) ((ofFragments resolves fs).countHits hits t) := by
  let posted := inOrder ((Table.get? t (ofFragments resolves fs).postings).getD [])
  have hposted : ∀ id, id ∈ posted ↔ HasToken fs id t := fun id => mem_inOrder.trans mem_postings
  have hnodup : posted.Nodup := nodup_inOrder (nodup_postings t)
  have hkeys : Table.keys ((ofFragments resolves fs).countHits hits t) =
      Table.keys hits ++ posted.filter (· ∉ Table.keys hits) := Table.keys_foldl_adjust _ hnodup hits
  -- what is entered anew has the term as its first hit
  have hnew : ∀ id ∈ posted.filter (· ∉ Table.keys hits), hitCount fs terms id = 0 ∧ HasToken fs id t := by
    intro id hid
    obtain ⟨hmem, hk⟩ := List.mem_filter.mp hid
    have hk' : ¬ 0 < hitCount fs terms id := fun h0 => of_decide_eq_true hk (h.mem_keys.mpr h0)
    exact ⟨by omega, (hposted id).mp hmem⟩
  refine ⟨fun id => ?_, ?_, ?_⟩
  · have hget : Table.get? id ((ofFragments resolves fs).countHits hits t) =
        if id ∈ posted then some ((Table.get? id hits).getD 0 + 1) else Table.get? id hits :=
      Table.get?_foldl_adjust id _ hnodup hits
    rw [hget, hitCount_snoc, h.count id]
    by_cases ht : HasToken fs id t
    · rw [if_pos ((hposted id).mpr ht), if_pos ht, if_neg (Nat.succ_ne_zero _)]
      split
      · next h0 => rw [h0]; rfl
      · rfl
    · rw [if_neg fun h' => ht ((hposted id).mp h'), if_neg ht]
      rfl
  · rw [hkeys, List.nodup_append]
    refine ⟨h.once, hnodup.sublist List.filter_sublist, fun i hi j hj e => ?_⟩
    exact of_decide_eq_true (List.mem_filter.mp hj).2 (e ▸ hi)
  · rw [hkeys, List.pairwise_append]
    refine ⟨?_, ?_, fun i hi j hj => ?_⟩
    · refine h.order.imp_of_mem fun {i j} hi hj hij => ?_
      unfold EnteredBefore
      rw [(firstHit_snoc_of_pos (h.mem_keys.mp hi)).1, (firstHit_snoc_of_pos (h.mem_keys.mp hj)).1]
      exact hij
    · refine ((pairwise_inOrder (nodup_postings t)).sublist List.filter_sublist).imp_of_mem fun {i j} hi hj hij => ?_
      refine Or.inr ⟨?_, hij⟩
      rw [firstHit_snoc_of_zero (hnew i hi).1 (hnew i hi).2, firstHit_snoc_of_zero (hnew j hj).1 (hnew j hj).2]
    · obtain ⟨hfirst, hlt⟩ := firstHit_snoc_of_pos (t := t) (h.mem_keys.mp hi)
      refine Or.inl ?_
      rw [hfirst, firstHit_snoc_of_zero (hnew j hj).1 (hnew j hj).2]
      exact hlt

/-- **The hits of a whole query.** -/
theorem counted_foldl (terms : List String) : Counted fs terms (terms.foldl (ofFragments resolves fs).countHits []) := by
  induction terms using List.reverseRecOn with
  | nil => exact counted_nil
  | append_singleton terms t ih =>
      rw [List.foldl_append]
      exact ih.snoc t

/-! ## 3. The results -/

section Results

variable {query : String}

/-- The table of hits by decreasing numbers of hits. -/
def rankedHits (ix : Index) (query : String) : Table String Nat := (ix.hits query).mergeSort fun a b => b.2 ≤ a.2

theorem rankedHits_perm (ix : Index) (query : String) : (rankedHits ix query).Perm (ix.hits query) :=
  List.mergeSort_perm _ _

theorem keys_rankedHits_perm (ix : Index) (query : String) :
    (Table.keys (rankedHits ix query)).Perm (Table.keys (ix.hits query)) := (rankedHits_perm ix query).map _

theorem counted_hits : Counted fs (queryTerms query) ((ofFragments resolves fs).hits query) := counted_foldl _

/-- Every id that was hit is known, and gives one result. -/
theorem ids_search :
    ((ofFragments resolves fs).search query).map (·.id) = Table.keys (rankedHits (ofFragments resolves fs) query) := by
  have hknown : ∀ id ∈ Table.keys (rankedHits (ofFragments resolves fs) query),
      ((ofFragments resolves fs).get? id).map (·.id) = some id := by
    intro id hid
    have hmem : id ∈ Table.keys ((ofFragments resolves fs).hits query) := (keys_rankedHits_perm _ query).mem_iff.mp hid
    obtain ⟨_, _, f, hf, rfl, _⟩ := hitCount_pos.mp (counted_hits.mem_keys.mp hmem)
    obtain ⟨g, hg⟩ : ∃ g, (ofFragments resolves fs).get? f.id = some g := exists_get? hf
    rw [hg, Option.map_some, id_of_get? hg]
  show List.map _ (List.filterMap _ (Table.keys (rankedHits _ query))) = _
  rw [List.map_filterMap, List.filterMap_congr hknown, List.filterMap_some]

/-- The ids of the results are in order. -/
theorem pairwise_ids_search :
    (((ofFragments resolves fs).search query).map (·.id)).Pairwise (Sooner fs (queryTerms query)) := by
  have hc : Counted fs (queryTerms query) ((ofFragments resolves fs).hits query) := counted_hits
  have htrans : ∀ a b c : String × Nat, decide (b.2 ≤ a.2) = true → decide (c.2 ≤ b.2) = true →
      decide (c.2 ≤ a.2) = true := by
    intro a b c hab hbc
    rw [decide_eq_true_iff] at hab hbc ⊢
    exact Nat.le_trans hbc hab
  have htotal : ∀ a b : String × Nat, (decide (b.2 ≤ a.2) || decide (a.2 ≤ b.2)) = true := by
    intro a b
    rw [Bool.or_eq_true, decide_eq_true_iff, decide_eq_true_iff]
    exact Nat.le_total _ _
  have hcount : ∀ e ∈ (ofFragments resolves fs).hits query, e.2 = hitCount fs (queryTerms query) e.1 := by
    intro e he
    have hget := (Table.mem_iff_get? hc.once).mp he
    rw [hc.count] at hget
    split at hget
    · cases hget
    · exact (Option.some.inj hget).symm
  rw [ids_search]
  refine List.pairwise_map.mpr ((Stable.pairwise_mergeSort htrans htotal (hc.once.of_map _)).imp_of_mem ?_)
  intro a b ha hb hab
  obtain ⟨hle, hstable⟩ := hab
  rw [decide_eq_true_iff] at hle hstable
  have ea := hcount a ((rankedHits_perm _ query).mem_iff.mp ha)
  have eb := hcount b ((rankedHits_perm _ query).mem_iff.mp hb)
  unfold Sooner
  rw [← ea, ← eb]
  rcases Nat.lt_or_eq_of_le hle with hlt | heq
  · exact Or.inl hlt
  · -- as many hits: the sort keeps the order of entry
    refine Or.inr ⟨heq.symm, ?_⟩
    have hsub : [a.1, b.1].Sublist (Table.keys ((ofFragments resolves fs).hits query)) :=
      (hstable (Nat.le_of_eq heq.symm)).map _
    exact List.pairwise_iff_forall_sublist.mp hc.order hsub

theorem nodup_ids_search : (((ofFragments resolves fs).search query).map (·.id)).Nodup := by
  rw [ids_search]
  exact (keys_rankedHits_perm _ query).nodup_iff.mpr counted_hits.once

theorem mem_ids_search :
    id ∈ ((ofFragments resolves fs).search query).map (·.id) ↔ ∃ t ∈ queryTerms query, HasToken fs id t := by
  have hc : Counted fs (queryTerms query) ((ofFragments resolves fs).hits query) := counted_hits
  rw [ids_search, ← hitCount_pos, ← hc.mem_keys]
  exact (keys_rankedHits_perm _ query).mem_iff

theorem get?_of_mem_search {f : Fragment} (h : f ∈ (ofFragments resolves fs).search query) :
    (ofFragments resolves fs).get? f.id = some f := by
  obtain ⟨id, _, hf⟩ := mem_getAll.mp h
  rw [id_of_get? hf]
  exact hf

/-- No two ids come before each other. -/
theorem Sooner.asymm {i j : String} (hij : Sooner fs terms i j) : ¬ Sooner fs terms j i := by
  rintro (hji | ⟨hji, hji' | ⟨hji', hlt'⟩⟩) <;> rcases hij with hij | ⟨hij, hij' | ⟨hij', hlt⟩⟩
  all_goals first
    | omega
    | exact String.lt_asymm hlt hlt'

theorem sooner_congr {fs' : List Fragment} (h : ∀ id t, HasToken fs' id t ↔ HasToken fs id t) (terms : List String) :
    Sooner fs' terms = Sooner fs terms := by
  have hdecide : ∀ id t, decide (HasToken fs' id t) = decide (HasToken fs id t) := fun id t =>
    decide_eq_decide.mpr (h id t)
  unfold Sooner EnteredBefore hitCount firstHit
  simp only [hdecide]

end Results

/-! ## 4. Exactness -/

/-- **A search by tokens is exact.** An id is among the results exactly if a fragment with it has one of the
terms as a token; it is there once, by the fragment that is found by it. More hits come first; of as many, the
earlier first hit; then the ids are in the order of their code points. So in whatever order the fragments were
given, the ids of the results are the same. -/
theorem search_exact (resolves : Bool) (fs : List Fragment) (query : String) :
    (∀ id, id ∈ ((ofFragments resolves fs).search query).map (·.id) ↔
      ∃ t ∈ queryTerms query, ∃ f ∈ fs, f.id = id ∧ t ∈ f.tokens) ∧
    (((ofFragments resolves fs).search query).map (·.id)).Nodup ∧
    (∀ f ∈ (ofFragments resolves fs).search query, (ofFragments resolves fs).get? f.id = some f) ∧
    ((ofFragments resolves fs).search query).Pairwise (fun f g => Sooner fs (queryTerms query) f.id g.id) ∧
    ∀ resolves' fs', fs'.Perm fs →
      ((ofFragments resolves' fs').search query).map (·.id) = ((ofFragments resolves fs).search query).map (·.id) := by
  refine ⟨fun _ => mem_ids_search, nodup_ids_search, fun _ => get?_of_mem_search,
    List.pairwise_map.mp pairwise_ids_search, fun resolves' fs' hperm => ?_⟩
  have htoken : ∀ id t, HasToken fs' id t ↔ HasToken fs id t := fun id t =>
    exists_congr fun f => and_congr_left fun _ => hperm.mem_iff
  have hsorted : (((ofFragments resolves' fs').search query).map (·.id)).Pairwise (Sooner fs (queryTerms query)) :=
    sooner_congr htoken (queryTerms query) ▸ pairwise_ids_search
  -- the ids are the same and their order is, so the lists are
  have hsame : (((ofFragments resolves' fs').search query).map (·.id)).Perm
      (((ofFragments resolves fs).search query).map (·.id)) := by
    refine (List.perm_ext_iff_of_nodup nodup_ids_search nodup_ids_search).mpr fun id => ?_
    rw [mem_ids_search, mem_ids_search]
    exact exists_congr fun t => and_congr_right fun _ => htoken id t
  exact hsame.eq_of_pairwise (fun _ _ _ _ hij hji => absurd hji hij.asymm) hsorted pairwise_ids_search

/-- A repeated term counts again, the tokens of two fragments with one id count for the id, and of two ids with as
many hits the one that the earlier term hits comes first. The reversed fragments give the same ids. -/
theorem search_exact_reversed :
    let fs := [member "d" "save" [], member "c" "load" [], member "b" "fileSystem" [], member "a" "loadFile" [],
      member "c" "other" []]
    fs.reverse.Perm fs ∧ ((ofFragments true fs.reverse).search "file Load SAVE file").map (·.id) = ["a", "b", "c", "d"] := by
  intro fs
  have hperm : fs.reverse.Perm fs := List.reverse_perm fs
  obtain ⟨hmem, hnodup, _, hsooner, hsame⟩ := search_exact false fs "file Load SAVE file"
  have hids : ∀ id ∈ ["a", "b", "c", "d"], 0 < hitCount fs (queryTerms "file Load SAVE file") id := by decide +kernel
  have hall : ∀ f ∈ fs, f.id ∈ ["a", "b", "c", "d"] := by decide
  have horder : ["a", "b", "c", "d"].Pairwise (Sooner fs (queryTerms "file Load SAVE file")) := by
    unfold Sooner EnteredBefore
    decide +kernel
  clear_value fs
  refine ⟨hperm, (hsame true fs.reverse hperm).trans ?_⟩
  refine List.Perm.eq_of_pairwise (fun _ _ _ _ hij hji => absurd hji hij.asymm) (List.pairwise_map.mpr hsooner) horder ?_
  refine (List.perm_ext_iff_of_nodup hnodup (by decide)).mpr fun id => ⟨fun h => ?_, fun h => ?_⟩
  · obtain ⟨_, _, f, hf, rfl, _⟩ := (hmem id).mp h
    exact hall f hf
  · exact (hmem id).mpr (hitCount_pos.mp (hids id h))

end FragmentSearch.Index
