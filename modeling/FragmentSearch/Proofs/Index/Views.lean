import FragmentSearch.Proofs.Index.Snapshot
import FragmentSearch.Proofs.Table.Entries
import Mathlib.Algebra.GroupWithZero.Nat

/-!
# The views of an index, as conditions on its fragments

An index is built in one pass that enters every fragment into all views. Each view by itself is a table of
entries that the fragments make (`place_ofFragments`, `references_ofFragments`, …). So what a view gives can
be said of the fragments alone, whatever their ids:

* `get?_ofFragments` -- of an id, the last fragment is found;
* `byKind_ofFragments`, `byPackage_ofFragments` -- of a kind or a package, all fragments in their order;
* `mem_postings` -- under a token stand the ids of the fragments with this token, each once;
* `get?_references` -- the references of an id are the dependencies of the last fragment that has any;
* `mem_idsOfName` -- a resolving index knows the ids of the fragments of a name.

Ids are given in the order of their code points, which depends on nothing else (`inOrder_congr`). Where no id
occurs twice, every fragment is the one found by its id (`get?_of_mem`).
-/

namespace FragmentSearch

/-! ## 1. Lists without repetition -/

section Distinct

variable {α : Type} [DecidableEq α]

theorem mem_addOnce {x y : α} {xs : List α} : y ∈ Index.addOnce x xs ↔ y ∈ xs ∨ y = x := by
  unfold Index.addOnce
  split
  · next h => exact ⟨Or.inl, fun h' => h'.elim id fun e => e ▸ h⟩
  · rw [List.mem_append, List.mem_singleton]

theorem nodup_addOnce {x : α} {xs : List α} (h : xs.Nodup) : (Index.addOnce x xs).Nodup := by
  unfold Index.addOnce
  split
  · exact h
  · next hx =>
      refine List.nodup_append.mpr ⟨h, List.nodup_singleton x, fun y hy z hz e => hx ?_⟩
      rw [← List.mem_singleton.mp hz, ← e]
      exact hy

theorem distinct_snoc (xs : List α) (x : α) : distinct (xs ++ [x]) = Index.addOnce x (distinct xs) := by
  unfold distinct
  rw [List.foldl_append]
  rfl

@[simp] theorem mem_distinct {x : α} {xs : List α} : x ∈ distinct xs ↔ x ∈ xs := by
  induction xs using List.reverseRecOn with
  | nil => exact Iff.rfl
  | append_singleton xs y ih => rw [distinct_snoc, mem_addOnce, ih, List.mem_append, List.mem_singleton]

theorem nodup_distinct (xs : List α) : (distinct xs).Nodup := by
  induction xs using List.reverseRecOn with
  | nil => exact List.nodup_nil
  | append_singleton xs x ih =>
      rw [distinct_snoc]
      exact nodup_addOnce ih

end Distinct

namespace Index

/-! ## 2. Ids in order -/

section Order

theorem mem_inOrder {x : String} {xs : List String} : x ∈ inOrder xs ↔ x ∈ xs := (List.mergeSort_perm xs _).mem_iff

theorem nodup_inOrder {xs : List String} (h : xs.Nodup) : (inOrder xs).Nodup := (List.mergeSort_perm xs _).nodup_iff.mpr h

/-- Texts in order stand in the order of their code points. -/
theorem pairwise_le_inOrder (xs : List String) : (inOrder xs).Pairwise (· ≤ ·) := by
  have hle : ∀ a b : String, (!decide (b < a)) = true ↔ a ≤ b := by
    intro a b
    rw [Bool.not_eq_true', decide_eq_false_iff_not, String.not_lt]
  have hsorted : (inOrder xs).Pairwise fun a b => (!decide (b < a)) = true := by
    refine List.pairwise_mergeSort (fun a b c hab hbc => ?_) (fun a b => ?_) xs
    · rw [hle] at hab hbc ⊢
      exact String.le_trans hab hbc
    · rw [Bool.or_eq_true, hle, hle]
      exact String.le_total a b
  exact hsorted.imp fun {a b} => (hle a b).mp

theorem pairwise_inOrder {xs : List String} (h : xs.Nodup) : (inOrder xs).Pairwise (· < ·) := by
  refine ((pairwise_le_inOrder xs).and (nodup_inOrder h)).imp fun {a b} hab => ?_
  obtain ⟨hab, hne⟩ := hab
  by_contra hnot
  exact hne (String.le_antisymm hab (String.not_lt.mp hnot))

/-- The order of texts does not depend on how they were given. -/
theorem inOrder_congr {xs ys : List String} (h : xs.Perm ys) : inOrder xs = inOrder ys := by
  have hperm : (inOrder xs).Perm (inOrder ys) :=
    ((List.mergeSort_perm xs _).trans h).trans (List.mergeSort_perm ys _).symm
  refine hperm.eq_of_pairwise (fun x y _ _ hxy hyx => ?_) (pairwise_le_inOrder xs) (pairwise_le_inOrder ys)
  exact String.le_antisymm hxy hyx

theorem inOrder_distinct_congr {xs ys : List String} (h : ∀ x, x ∈ xs ↔ x ∈ ys) :
    inOrder (distinct xs) = inOrder (distinct ys) := by
  refine inOrder_congr ((List.perm_ext_iff_of_nodup (nodup_distinct xs) (nodup_distinct ys)).mpr fun x => ?_)
  rw [mem_distinct, mem_distinct, h x]

end Order

variable {resolves : Bool} {fs : List Fragment}

/-! ## 3. The entries of each view -/

section Entries

theorem resolvesNames_foldl_enter (ps : List (Fragment × Nat)) :
    ∀ ix : Index, (ps.foldl (fun ix p => ix.enter p.1 p.2) ix).resolvesNames = ix.resolvesNames := by
  induction ps with
  | nil => intro ix; rfl
  | cons p ps ih =>
      intro ix
      rw [List.foldl_cons, ih]
      rfl

@[simp] theorem resolvesNames_ofFragments : (ofFragments resolves fs).resolvesNames = resolves :=
  resolvesNames_foldl_enter fs.zipIdx (blank resolves fs)

theorem place_ofFragments :
    (ofFragments resolves fs).place = Table.ofList (fs.zipIdx.map fun p => (p.1.id, p.2)) := by
  unfold Table.ofList
  rw [List.foldl_map]
  exact (List.foldl_hom Index.place fun _ _ => rfl).symm

theorem references_ofFragments :
    (ofFragments resolves fs).references =
      Table.ofList ((fs.filter (·.dependencies ≠ [])).map fun f => (f.id, distinct f.dependencies)) := by
  have hpass : (ofFragments resolves fs).references = fs.zipIdx.foldl (fun t p =>
      if decide (p.1.dependencies ≠ []) then Table.put p.1.id (distinct p.1.dependencies) t else t) [] := by
    refine (List.foldl_hom Index.references fun ix p => ?_).symm
    show _ = if p.1.dependencies.isEmpty then ix.references else _
    cases p.1.dependencies <;> rfl
  unfold Table.ofList
  rw [hpass, List.foldl_map, List.foldl_filter]
  conv_rhs => rw [← List.zipIdx_map_fst 0 fs, List.foldl_map]

/-- The places of the fragments that have a package, under it. -/
theorem ofPackage_ofFragments :
    (ofFragments resolves fs).ofPackage =
      (fs.zipIdx.filterMap fun p => p.1.package.map (·, p.2)).foldl (fun t e => Table.file e.1 e.2 t) [] := by
  rw [List.foldl_filterMap]
  refine (List.foldl_hom Index.ofPackage fun ix p => ?_).symm
  unfold enter
  cases p.1.package <;> rfl

/-- The places of the fragments of a kind, under it. -/
theorem ofKind_ofFragments :
    (ofFragments resolves fs).ofKind =
      (fs.zipIdx.map fun p => (p.1.kind, p.2)).foldl (fun t e => Table.file e.1 e.2 t) [] := by
  rw [List.foldl_map]
  exact (List.foldl_hom Index.ofKind fun _ _ => rfl).symm

/-- The ids of the fragments that have a name, under it. -/
theorem idsOfName_foldl_enter (ps : List (Fragment × Nat)) : ∀ ix : Index,
    (ps.foldl (fun ix p => ix.enter p.1 p.2) ix).idsOfName =
      if ix.resolvesNames then
        ((ps.map (·.1)).filterMap fun f => f.name.map (·, f.id)).foldl (fun t e => Table.file e.1 e.2 t) ix.idsOfName
      else ix.idsOfName := by
  induction ps with
  | nil => intro ix; cases ix.resolvesNames <;> rfl
  | cons p ps ih =>
      intro ix
      rw [List.foldl_cons, ih]
      cases hr : ix.resolvesNames <;> cases hn : p.1.name <;> simp [enter, hr, hn]

/-- The ids of the fragments with a token, under it. -/
theorem postings_ofFragments :
    (ofFragments resolves fs).postings =
      (fs.flatMap fun f => f.tokens.map (f.id, ·)).foldl (fun t e => post e.1 t e.2) [] := by
  have hpass : (ofFragments resolves fs).postings =
      fs.zipIdx.foldl (fun t p => p.1.tokens.foldl (post p.1.id) t) [] :=
    (List.foldl_hom Index.postings fun _ _ => rfl).symm
  rw [hpass, List.foldl_flatMap]
  simp only [List.foldl_map]
  conv_rhs => rw [← List.zipIdx_map_fst 0 fs, List.foldl_map]

theorem mem_foldl_post {id t : String} (es : List (String × String)) :
    id ∈ (Table.get? t (es.foldl (fun t e => post e.1 t e.2) [])).getD [] ↔ (id, t) ∈ es := by
  induction es using List.reverseRecOn with
  | nil => exact ⟨fun h => absurd h List.not_mem_nil, fun h => absurd h List.not_mem_nil⟩
  | append_singleton es e ih =>
      obtain ⟨i, u⟩ := e
      rw [List.foldl_append, List.foldl_cons, List.foldl_nil, post, Table.get?_adjust, List.mem_append,
        List.mem_singleton, ← ih]
      by_cases h : u = t
      · subst h
        rw [if_pos rfl, Option.getD_some, mem_addOnce, Prod.mk.injEq, and_iff_left rfl]
      · rw [if_neg h, Prod.mk.injEq, or_iff_left fun h' => h h'.2.symm]

theorem nodup_foldl_post (t : String) (es : List (String × String)) :
    ((Table.get? t (es.foldl (fun t e => post e.1 t e.2) [])).getD []).Nodup := by
  induction es using List.reverseRecOn with
  | nil => exact List.nodup_nil
  | append_singleton es e ih =>
      rw [List.foldl_append, List.foldl_cons, List.foldl_nil, post, Table.get?_adjust]
      split
      · next h => exact nodup_addOnce (h ▸ ih)
      · exact ih

end Entries

/-! ## 4. What the views give -/

section Views

/-- The places of some fragments lead to them. -/
theorem filterMap_places (ps : List (Fragment × Nat)) (hps : ∀ p ∈ ps, p ∈ fs.zipIdx) :
    (ps.map (·.2)).filterMap (fs[·]?) = ps.map (·.1) := by
  have hplace : ∀ p ∈ ps, fs[p.2]? = some p.1 := fun p hp => List.mem_zipIdx_iff_getElem?.mp (hps p hp)
  rw [List.filterMap_map, ← List.filterMap_eq_map]
  exact List.filterMap_congr hplace

/-- The fragments that meet a condition, taken from the pass. -/
theorem map_fst_filter_zipIdx (q : Fragment → Bool) : (fs.zipIdx.filter (q ·.1)).map (·.1) = fs.filter q := by
  have h := List.filter_map (f := Prod.fst) (p := q) (l := fs.zipIdx)
  rw [List.zipIdx_map_fst] at h
  exact h.symm

/-- The place of an id is that of the last fragment that has it. -/
theorem get?_place (id : String) : Table.get? id (ofFragments resolves fs).place =
    (fs.zipIdx.filter (·.1.id = id)).getLast?.map (·.2) := by
  rw [place_ofFragments]
  exact Table.get?_ofList_map (·.1.id) (·.2) id fs.zipIdx

/-- **Of an id, the last fragment is found.** -/
theorem get?_ofFragments (id : String) : (ofFragments resolves fs).get? id = (fs.filter (·.id = id)).getLast? := by
  unfold get?
  rw [get?_place, fragments_ofFragments, ← map_fst_filter_zipIdx (·.id = id), List.getLast?_map]
  cases h : (fs.zipIdx.filter (·.1.id = id)).getLast? with
  | none => rfl
  | some p => exact List.mem_zipIdx_iff_getElem?.mp (List.mem_of_mem_filter (List.mem_of_getLast? h))

theorem id_of_get? {id : String} {f : Fragment} (h : (ofFragments resolves fs).get? id = some f) : f.id = id := by
  rw [get?_ofFragments] at h
  exact of_decide_eq_true (List.mem_filter.mp (List.mem_of_getLast? h)).2

/-- An id has a place if a fragment has it. -/
theorem isSome_place {id : String} :
    (Table.get? id (ofFragments resolves fs).place).isSome = true ↔ ∃ f ∈ fs, f.id = id := by
  rw [Option.isSome_iff_exists, ← Table.mem_keys, place_ofFragments, Table.mem_keys_ofList, List.map_map]
  have hfst : (fs.zipIdx.map ((·.1) ∘ fun p => (p.1.id, p.2))) = (fs.zipIdx.map (·.1)).map (·.id) := by
    rw [List.map_map]
    rfl
  rw [hfst, List.zipIdx_map_fst, List.mem_map]

/-- An id is known if a fragment has it. -/
theorem exists_get? {f : Fragment} (hf : f ∈ fs) : ∃ g, (ofFragments resolves fs).get? f.id = some g := by
  have hmem : f ∈ fs.filter (·.id = f.id) := List.mem_filter.mpr ⟨hf, decide_eq_true rfl⟩
  rw [get?_ofFragments]
  exact ⟨_, List.getLast?_eq_some_getLast (List.ne_nil_of_mem hmem)⟩

/-- Where no id occurs twice, every fragment is the one found by its id. -/
theorem get?_of_mem (hids : (fs.map (·.id)).Nodup) {f : Fragment} (hf : f ∈ fs) :
    (ofFragments resolves fs).get? f.id = some f := by
  obtain ⟨g, hg⟩ : ∃ g, (ofFragments resolves fs).get? f.id = some g := exists_get? hf
  have hmem : g ∈ fs := fragments_ofFragments resolves fs ▸ mem_of_get? hg
  rw [hg, List.inj_on_of_nodup_map hids hmem hf (id_of_get? hg)]

/-- **Of a package, all fragments are found.** -/
theorem byPackage_ofFragments (p : String) :
    (ofFragments resolves fs).byPackage p = fs.filter (·.package = some p) := by
  have hentries : ((fs.zipIdx.filterMap fun e => e.1.package.map (·, e.2)).filter (·.1 = p)).map (·.2) =
      (fs.zipIdx.filter (·.1.package = some p)).map (·.2) := by
    induction fs.zipIdx with
    | nil => rfl
    | cons e es ih =>
        rw [List.filterMap_cons, List.filter_cons]
        cases he : e.1.package with
        | none => simpa [he] using ih
        | some q => by_cases hq : q = p <;> simpa [he, hq] using ih
  unfold byPackage pick
  rw [ofPackage_ofFragments, Table.getD_file, hentries, fragments_ofFragments,
    filterMap_places _ fun e he => List.mem_of_mem_filter he, map_fst_filter_zipIdx (·.package = some p)]

/-- **Of a kind, all fragments are found.** -/
theorem byKind_ofFragments (k : Kind) : (ofFragments resolves fs).byKind k = fs.filter (·.kind = k) := by
  have hentries : ((fs.zipIdx.map fun p => (p.1.kind, p.2)).filter (·.1 = k)).map (·.2) =
      (fs.zipIdx.filter (·.1.kind = k)).map (·.2) := by
    rw [List.filter_map, List.map_map]
    rfl
  unfold byKind pick
  rw [ofKind_ofFragments, Table.getD_file, hentries, fragments_ofFragments,
    filterMap_places _ fun e he => List.mem_of_mem_filter he, map_fst_filter_zipIdx (·.kind = k)]

/-- **Every fragment is counted under one kind.** -/
theorem sum_kindCounts : ((ofFragments resolves fs).kindCounts.map (·.2)).sum = fs.length := by
  have hcounts : (ofFragments resolves fs).kindCounts.map (·.2) = Kind.all.map fun k => (fs.filter (·.kind = k)).length := by
    rw [kindCounts, List.map_map]
    exact List.map_congr_left fun k _ => congrArg List.length (byKind_ofFragments k)
  rw [hcounts]
  clear hcounts
  induction fs with
  | nil => rfl
  | cons f fs ih =>
      simp only [Kind.all, List.map_cons, List.map_nil, List.sum_cons, List.sum_nil, List.filter_cons] at ih ⊢
      cases f.kind <;> simp <;> omega

/-- **Under a token stand the ids of the fragments with this token**, each once (`nodup_postings`). -/
theorem mem_postings {id t : String} :
    id ∈ (Table.get? t (ofFragments resolves fs).postings).getD [] ↔ ∃ f ∈ fs, f.id = id ∧ t ∈ f.tokens := by
  rw [postings_ofFragments, mem_foldl_post, List.mem_flatMap]
  refine exists_congr fun f => and_congr_right fun _ => ?_
  rw [List.mem_map]
  constructor
  · rintro ⟨u, hu, e⟩
    obtain ⟨rfl, rfl⟩ := Prod.mk.inj e
    exact ⟨rfl, hu⟩
  · rintro ⟨rfl, ht⟩
    exact ⟨t, ht, rfl⟩

theorem nodup_postings (t : String) : ((Table.get? t (ofFragments resolves fs).postings).getD []).Nodup := by
  rw [postings_ofFragments]
  exact nodup_foldl_post t _

theorem nodup_references : (Table.keys (ofFragments resolves fs).references).Nodup := by
  rw [references_ofFragments]
  exact Table.nodup_ofList _

/-- **The references of an id** are the dependencies of the last of its fragments that has any. -/
theorem get?_references (id : String) :
    Table.get? id (ofFragments resolves fs).references =
      ((fs.filter fun f => f.id = id ∧ f.dependencies ≠ []).getLast?).map (distinct ·.dependencies) := by
  have hboth : (fs.filter (·.dependencies ≠ [])).filter (·.id = id) =
      fs.filter fun f => f.id = id ∧ f.dependencies ≠ [] := by
    rw [List.filter_filter]
    exact List.filter_congr fun f _ => (Bool.decide_and _ _).symm
  rw [references_ofFragments, ← hboth]
  exact Table.get?_ofList_map Fragment.id (fun f => distinct f.dependencies) id _

/-- **A resolving index knows the ids of the fragments of a name.** -/
theorem mem_idsOfName {id n : String} :
    id ∈ (Table.get? n (ofFragments resolves fs).idsOfName).getD [] ↔
      resolves = true ∧ ∃ f ∈ fs, f.id = id ∧ f.name = some n := by
  have h : (ofFragments resolves fs).idsOfName =
      if resolves then (fs.filterMap fun f => f.name.map (·, f.id)).foldl (fun t e => Table.file e.1 e.2 t) []
      else [] := by
    have h := idsOfName_foldl_enter fs.zipIdx (blank resolves fs)
    rw [List.zipIdx_map_fst] at h
    exact h
  cases resolves with
  | false =>
      rw [h]
      exact ⟨fun h => absurd h List.not_mem_nil, fun h => nomatch h.1⟩
  | true =>
      rw [h, if_pos rfl, Table.getD_file]
      simp [and_comm]

end Views

/-- A method of a package, with its id, its name and its dependencies. -/
def member (id name : String) (dependencies : List String) : Fragment :=
  { id := id, kind := .method, name := some name, signature := none, content := none, filePath := "", startLine := 1,
    endLine := 1, package := some "m", documentation := none, dependencies := dependencies, embedding := none }

end Index

end FragmentSearch
