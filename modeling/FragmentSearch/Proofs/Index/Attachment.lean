import FragmentSearch.Proofs.Index.Views

/-!
# Attached vectors

Vectors change the fragments of an index and none of its views, so an index with vectors is the index of the
fragments with vectors (`ofFragments_of_bare`). A vector is given for an id, and only the fragment found by the id gets
it (`getElem?_attachAll`). Where no id occurs twice, attaching the vectors of a table gives each fragment the vector
that stands under its id (`attachAll_ofFragments`), and every vector that reaches a fragment without one makes one more
fragment embedded (`embeddedCount_given`); such an index finds every fragment by its id (`HasDistinctIds.getAll`).
-/

namespace FragmentSearch

/-- The fragment without its vector. -/
def Fragment.bare (f : Fragment) : Fragment := { f with embedding := none }

/-- The fragment with the vector that a table has for its id; otherwise it stays as it is. -/
def Fragment.given (vectors : Table String (List Float)) (f : Fragment) : Fragment :=
  { f with embedding := (Table.get? f.id vectors).or f.embedding }

namespace Index

variable {resolves : Bool} {fs fs' : List Fragment} {vectors : Table String (List Float)}

/-! ## 1. Views and vectors -/

section Bare

theorem foldl_enter_bare (ps : List (Fragment × Nat)) (ix : Index) :
    (ps.map (Prod.map Fragment.bare id)).foldl (fun ix p => ix.enter p.1 p.2) ix =
      ps.foldl (fun ix p => ix.enter p.1 p.2) ix := by
  rw [List.foldl_map]
  rfl

theorem foldl_enter_fragments (gs : List Fragment) (ps : List (Fragment × Nat)) : ∀ ix : Index,
    ps.foldl (fun ix p => ix.enter p.1 p.2) { ix with fragments := gs } =
      { ps.foldl (fun ix p => ix.enter p.1 p.2) ix with fragments := gs } := by
  induction ps with
  | nil => intro ix; rfl
  | cons p ps ih =>
      intro ix
      exact ih (ix.enter p.1 p.2)

/-- **An index with vectors is the index of the fragments with vectors.** -/
theorem ofFragments_of_bare (h : fs'.map Fragment.bare = fs.map Fragment.bare) :
    ofFragments resolves fs' = { ofFragments resolves fs with fragments := fs' } := by
  have hpass : ∀ gs : List Fragment, ofFragments resolves gs =
      (gs.map Fragment.bare).zipIdx.foldl (fun ix p => ix.enter p.1 p.2) (blank resolves gs) := by
    intro gs
    rw [List.zipIdx_map, foldl_enter_bare]
    rfl
  rw [hpass fs', hpass fs, h, ← foldl_enter_fragments]
  rfl

end Bare

/-! ## 2. A table of vectors -/

section Many

theorem attachAll_snoc (ix : Index) (vectors : Table String (List Float)) (e : String × List Float) :
    ix.attachAll (vectors ++ [e]) = attach (ix.attachAll vectors) e := by
  unfold attachAll
  rw [List.foldl_append]
  rfl

theorem attach_some {ix : Index} {e : String × List Float} {i : Nat} (h : Table.get? e.1 ix.place = some i) (n : Nat) :
    attach (ix, n) e =
      ({ ix with fragments := ix.fragments.modify i fun f => { f with embedding := some e.2 } }, n + 1) := by
  simp only [attach, h]

theorem attach_none {ix : Index} {e : String × List Float} (h : Table.get? e.1 ix.place = none) (n : Nat) :
    attach (ix, n) e = (ix, n) := by
  simp only [attach, h]

/-- Vectors change the fragments and no view. -/
theorem attachAll_views (ix : Index) (vectors : Table String (List Float)) :
    (ix.attachAll vectors).1 = { ix with fragments := (ix.attachAll vectors).1.fragments } := by
  induction vectors using List.reverseRecOn with
  | nil => rfl
  | append_singleton vectors e ih =>
      rw [attachAll_snoc]
      cases h : Table.get? e.1 (ix.attachAll vectors).1.place with
      | none =>
          rw [attach_none h]
          exact ih
      | some i =>
          rw [attach_some h, ih]

theorem place_attachAll (ix : Index) (vectors : Table String (List Float)) :
    (ix.attachAll vectors).1.place = ix.place := by
  rw [attachAll_views]

/-- Vectors change nothing else in the fragments. -/
theorem map_bare_attachAll (ix : Index) (vectors : Table String (List Float)) :
    (ix.attachAll vectors).1.fragments.map Fragment.bare = ix.fragments.map Fragment.bare := by
  induction vectors using List.reverseRecOn with
  | nil => rfl
  | append_singleton vectors e ih =>
      rw [attachAll_snoc]
      cases h : Table.get? e.1 (ix.attachAll vectors).1.place with
      | none =>
          rw [attach_none h]
          exact ih
      | some i =>
          rw [attach_some h, ← ih]
          refine List.ext_getElem? fun k => ?_
          rw [List.getElem?_map, List.getElem?_map, List.getElem?_modify, Option.map_eq_map, Option.map_map]
          refine Option.map_congr fun f _ => ?_
          show Fragment.bare (if i = k then _ else f) = f.bare
          split <;> rfl

/-- **An index with vectors attached** is the index of fragments that differ in their vectors only. -/
theorem exists_ofFragments_attachAll (vectors : Table String (List Float)) :
    ∃ gs : List Fragment, gs.map Fragment.bare = fs.map Fragment.bare ∧
      ((ofFragments resolves fs).attachAll vectors).1 = ofFragments resolves gs := by
  have hbare := map_bare_attachAll (ofFragments resolves fs) vectors
  rw [fragments_ofFragments] at hbare
  refine ⟨_, hbare, ?_⟩
  rw [ofFragments_of_bare hbare]
  exact attachAll_views _ _

/-- The vectors for known ids are counted. -/
theorem count_attachAll (ix : Index) (vectors : Table String (List Float)) :
    (ix.attachAll vectors).2 = vectors.countP fun e => (Table.get? e.1 ix.place).isSome := by
  induction vectors using List.reverseRecOn with
  | nil => rfl
  | append_singleton vectors e ih =>
      rw [attachAll_snoc, List.countP_append, List.countP_singleton, ← ih]
      cases h : Table.get? e.1 ix.place with
      | none =>
          rw [attach_none (by rw [place_attachAll, h])]
          rfl
      | some i =>
          rw [attach_some (by rw [place_attachAll, h])]
          rfl

theorem attachAll_append (ix : Index) (vectors more : Table String (List Float)) :
    ix.attachAll (vectors ++ more) =
      (((ix.attachAll vectors).1.attachAll more).1,
        (ix.attachAll vectors).2 + ((ix.attachAll vectors).1.attachAll more).2) := by
  induction more using List.reverseRecOn with
  | nil => rw [List.append_nil]; rfl
  | append_singleton more e ih =>
      rw [← List.append_assoc, attachAll_snoc, ih, attachAll_snoc]
      cases h : Table.get? e.1 ((ix.attachAll vectors).1.attachAll more).1.place with
      | none => rw [attach_none h, attach_none h]
      | some i => rw [attach_some h, attach_some h]; rfl

/-- At the place of an id stands a fragment that has it. -/
theorem exists_at_place {id : String} {i : Nat} (h : Table.get? id (ofFragments resolves fs).place = some i) :
    ∃ f, fs[i]? = some f ∧ f.id = id := by
  rw [get?_place, Option.map_eq_some_iff] at h
  obtain ⟨p, hp, rfl⟩ := h
  obtain ⟨hmem, hid⟩ := List.mem_filter.mp (List.mem_of_getLast? hp)
  exact ⟨p.1, List.mem_zipIdx_iff_getElem?.mp hmem, of_decide_eq_true hid⟩

/-- One more vector is given to the fragments that have its id. -/
theorem given_ofList_snoc (vectors : Table String (List Float)) (e : String × List Float) (f : Fragment) :
    f.given (Table.ofList (vectors ++ [e])) =
      if e.1 = f.id then { f with embedding := some e.2 } else f.given (Table.ofList vectors) := by
  unfold Fragment.given
  rw [Table.ofList_snoc, Table.get?_put]
  split <;> rfl

/-- **What attached vectors leave of the fragment at a place**: if it is the one found by its id, it has the last vector
given for the id; otherwise it stays as it is. -/
theorem getElem?_attachAll (vectors : Table String (List Float)) (i : Nat) :
    ((ofFragments resolves fs).attachAll vectors).1.fragments[i]? = fs[i]?.map fun f =>
      if Table.get? f.id (ofFragments resolves fs).place = some i then f.given (Table.ofList vectors) else f := by
  induction vectors using List.reverseRecOn with
  | nil =>
      have hnone : ∀ f : Fragment, f.given (Table.ofList []) = f := fun _ => rfl
      simp only [hnone, ite_self, Option.map_id']
      exact congrArg (·[i]?) (fragments_ofFragments resolves fs)
  | append_singleton vectors e ih =>
      rw [attachAll_snoc]
      cases h : Table.get? e.1 (ofFragments resolves fs).place with
      | none =>
          rw [attach_none (by rw [place_attachAll, h]), ih]
          refine Option.map_congr fun f _ => ?_
          split
          · next hplace =>
              have hne : e.1 ≠ f.id := by
                intro e'
                rw [e', hplace] at h
                cases h
              rw [given_ofList_snoc, if_neg hne]
          · rfl
      | some k =>
          obtain ⟨g, hg, hid⟩ := exists_at_place h
          rw [attach_some (by rw [place_attachAll, h]), List.getElem?_modify, ih, Option.map_eq_map, Option.map_map]
          refine Option.map_congr fun f hf => ?_
          rw [Function.comp_apply, given_ofList_snoc]
          by_cases hik : k = i
          · -- the fragment at the place is the one with the id
            subst hik
            obtain rfl : g = f := Option.some.inj (hg.symm.trans hf)
            have hfound : Table.get? g.id (ofFragments resolves fs).place = some k := by rw [hid, h]
            rw [if_pos rfl, if_pos hfound, if_pos hfound, if_pos hid.symm]
            rfl
          · have hne : Table.get? f.id (ofFragments resolves fs).place = some i → e.1 ≠ f.id := by
              intro hplace e'
              rw [e', hplace] at h
              exact hik (Option.some.inj h).symm
            rw [if_neg hik]
            split
            · next hplace => rw [if_neg (hne hplace)]
            · rfl

end Many

/-! ## 3. Without repeated ids -/

section Once

/-- Where no id occurs twice, every fragment is the one found by its id. -/
theorem place_of_getElem? (hids : (fs.map (·.id)).Nodup) {i : Nat} {f : Fragment} (hf : fs[i]? = some f) :
    Table.get? f.id (ofFragments resolves fs).place = some i := by
  obtain ⟨k, hk⟩ := Option.isSome_iff_exists.mp (isSome_place.mpr ⟨f, List.mem_of_getElem? hf, rfl⟩)
  obtain ⟨g, hg, hid⟩ := exists_at_place hk
  have hk' : (fs.map (·.id))[k]? = some f.id := by rw [List.getElem?_map, hg, ← hid]; rfl
  have hi' : (fs.map (·.id))[i]? = some f.id := by rw [List.getElem?_map, hf]; rfl
  rw [hk, (List.getElem?_inj (List.getElem?_eq_some_iff.mp hk').1 hids).mp (hk'.trans hi'.symm)]

/-- **Attaching a table of vectors**: each fragment gets the vector that stands under its id. -/
theorem attachAll_ofFragments (hids : (fs.map (·.id)).Nodup) (hkeys : (Table.keys vectors).Nodup)
    (hknown : ∀ id ∈ Table.keys vectors, id ∈ fs.map (·.id)) :
    (ofFragments resolves fs).attachAll vectors =
      (ofFragments resolves (fs.map (Fragment.given vectors)), vectors.length) := by
  have hfragments : ((ofFragments resolves fs).attachAll vectors).1.fragments = fs.map (Fragment.given vectors) := by
    refine List.ext_getElem? fun i => ?_
    rw [getElem?_attachAll, List.getElem?_map, Table.ofList_of_nodup hkeys]
    exact Option.map_congr fun f hf => if_pos (place_of_getElem? hids hf)
  refine Prod.ext ?_ ?_
  · have hbare : (fs.map (Fragment.given vectors)).map Fragment.bare = fs.map Fragment.bare := by
      rw [List.map_map]
      rfl
    rw [ofFragments_of_bare hbare, attachAll_views, hfragments]
  · rw [count_attachAll, List.countP_eq_length]
    intro e he
    obtain ⟨f, hf, hid⟩ := List.mem_map.mp (hknown e.1 (List.mem_map_of_mem he))
    exact isSome_place.mpr ⟨f, hf, hid⟩

theorem isEmbedded_given (hkeys : (Table.keys vectors).Nodup) (hfull : ∀ e ∈ vectors, e.2 ≠ []) (f : Fragment) :
    (f.given vectors).isEmbedded = (f.isEmbedded || decide (f.id ∈ Table.keys vectors)) := by
  unfold Fragment.given Fragment.isEmbedded
  cases hf : Table.get? f.id vectors with
  | none =>
      rw [decide_eq_false (Table.get?_eq_none.mp hf), Bool.or_false]
      rfl
  | some xs =>
      have hkey : f.id ∈ Table.keys vectors := Table.mem_keys.mpr ⟨xs, hf⟩
      rw [decide_eq_true hkey, Bool.or_true]
      cases xs with
      | nil => exact absurd rfl (hfull _ ((Table.mem_iff_get? hkeys).mpr hf))
      | cons x xs => rfl

/-- **The vectors of a table count**: if they are for fragments without one, they make as many more embedded. -/
theorem embeddedCount_given (hids : (fs.map (·.id)).Nodup) (hkeys : (Table.keys vectors).Nodup)
    (hfull : ∀ e ∈ vectors, e.2 ≠ [])
    (hpending : ∀ id ∈ Table.keys vectors, id ∈ (fs.filter (!·.isEmbedded)).map (·.id)) :
    (fs.map (Fragment.given vectors)).countP (·.isEmbedded) = fs.countP (·.isEmbedded) + vectors.length := by
  have hold : (fs.filter (·.isEmbedded)).countP (fun f => (f.given vectors).isEmbedded) = fs.countP (·.isEmbedded) := by
    rw [List.countP_eq_length.mpr, List.countP_eq_length_filter]
    intro f hf
    rw [isEmbedded_given hkeys hfull, (List.mem_filter.mp hf).2, Bool.true_or]
  have hnew : (fs.filter (!·.isEmbedded)).countP (fun f => (f.given vectors).isEmbedded) = vectors.length := by
    have hperm : (((fs.filter (!·.isEmbedded)).map (·.id)).filter (· ∈ Table.keys vectors)).Perm (Table.keys vectors) := by
      refine (List.perm_ext_iff_of_nodup ((hids.sublist (List.filter_sublist.map _)).filter _) hkeys).mpr fun id => ?_
      rw [List.mem_filter, decide_eq_true_iff]
      exact ⟨fun h => h.2, fun h => ⟨hpending id h, h⟩⟩
    have hlen := hperm.length_eq
    rw [← List.countP_eq_length_filter, List.countP_map, Table.keys, List.length_map] at hlen
    rw [← hlen]
    refine List.countP_congr fun f hf => ?_
    have hbare : f.isEmbedded = false := by simpa using (List.mem_filter.mp hf).2
    rw [isEmbedded_given hkeys hfull, hbare, Bool.false_or]
    rfl
  rw [List.countP_map, ← hold, ← hnew]
  exact List.countP_eq_countP_filter_add fs _ _

end Once

/-! ## 4. Indexes of distinct ids -/

section Distinct

variable {ix : Index}

/-- The index of fragments with pairwise distinct ids, whatever vectors have been attached to it. -/
def HasDistinctIds (ix : Index) : Prop :=
  ∃ resolves fs vectors, ix = ((ofFragments resolves fs).attachAll vectors).1 ∧ (fs.map (·.id)).Nodup

/-- Fragments are found by their ids, in the order of the ids. -/
theorem HasDistinctIds.getAll (h : ix.HasDistinctIds) {found : List Fragment} (hfound : ∀ f ∈ found, f ∈ ix.fragments) :
    ix.getAll (found.map (·.id)) = found := by
  obtain ⟨resolves, fs, vectors, rfl, hids⟩ := h
  obtain ⟨gs, hbare, hix⟩ := exists_ofFragments_attachAll vectors
  have hsame : gs.map (·.id) = fs.map (·.id) := by
    have h := congrArg (List.map (·.id)) hbare
    rwa [List.map_map, List.map_map] at h
  have hget : ∀ f ∈ found, ((ofFragments resolves gs).get? ∘ (·.id)) f = some f := by
    intro f hf
    have hmem : f ∈ gs := by
      have h := hfound f hf
      rwa [hix, fragments_ofFragments] at h
    exact get?_of_mem (hsame ▸ hids) hmem
  rw [hix, Index.getAll, List.filterMap_map, List.filterMap_congr hget, List.filterMap_some]

end Distinct

end Index

end FragmentSearch
