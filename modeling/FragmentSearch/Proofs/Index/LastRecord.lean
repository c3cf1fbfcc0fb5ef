import FragmentSearch.Proofs.Index.Search

/-!
# Several fragments of one id

Of several fragments of one id, the last is the one found by it. The other views are only ever added to: under the
id stand the tokens of all its fragments, and the references of the last one that has any. So a view can give of an
id what the fragment found by it does not have:

* `LastWins ix` -- no view of the index does;
* `references_current_iff`, `postings_current_iff`, `search_current_iff` -- when a view does not;
* `last_wins_iff` -- the last fragment wins in all views exactly if it has dependencies where an earlier one has, and
  all tokens of the earlier ones;
* `last_wins_setter` -- two methods of one id for which it does not win.
-/

namespace FragmentSearch.Index

variable {resolves : Bool} {fs : List Fragment} {f g : Fragment} {id : String}

/-! ## 1. Views that agree -/

/-- Every view gives of an id what belongs to the fragment that is found by it. -/
structure LastWins (ix : Index) : Prop where
  /-- The references of an id are the dependencies of its fragment. -/
  references : ∀ id g, ix.get? id = some g → ∀ r, r ∈ ix.referencesOf id ↔ r ∈ g.dependencies
  /-- An id depends on what the dependencies of its fragment stand for. -/
  dependencies : ∀ id g, ix.get? id = some g →
    ix.dependencies id = ix.getAll (inOrder (distinct (g.dependencies.flatMap ix.resolve)))
  /-- An id stands under the tokens of its fragment. -/
  postings : ∀ id g, ix.get? id = some g → ∀ t, id ∈ (Table.get? t ix.postings).getD [] ↔ t ∈ g.tokens
  /-- A search gives fragments that have one of its terms as a token. -/
  search : ∀ query, ∀ g ∈ ix.search query, ∃ t ∈ queryTerms query, t ∈ g.tokens

/-! ## 2. References under an id -/

/-- The last member of a list is the last of those that meet a condition, if it meets it. -/
theorem getLast?_filter_of_getLast? {α : Type} {l : List α} {a : α} {p : α → Bool} (h : l.getLast? = some a)
    (hp : p a = true) : (l.filter p).getLast? = some a := by
  obtain ⟨front, rfl⟩ := List.getLast?_eq_some_iff.mp h
  rw [List.filter_append, List.filter_cons_of_pos hp, List.filter_nil, List.getLast?_concat]

theorem mem_of_mem_referencesOf {r : String} (h : r ∈ (ofFragments resolves fs).referencesOf id) :
    ∃ f ∈ fs, f.id = id ∧ r ∈ f.dependencies := by
  unfold referencesOf at h
  rw [get?_references] at h
  cases hlast : (fs.filter fun f => f.id = id ∧ f.dependencies ≠ []).getLast? with
  | none =>
      rw [hlast] at h
      exact absurd h List.not_mem_nil
  | some f =>
      rw [hlast] at h
      obtain ⟨hf, hq⟩ := List.mem_filter.mp (List.mem_of_getLast? hlast)
      exact ⟨f, hf, (of_decide_eq_true hq).1, mem_distinct.mp h⟩

/-- If the fragment of an id has dependencies, they are its references. -/
theorem mem_referencesOf_of_get? (hg : (ofFragments resolves fs).get? id = some g) (hd : g.dependencies ≠ [])
    (r : String) : r ∈ (ofFragments resolves fs).referencesOf id ↔ r ∈ g.dependencies := by
  have hlast : (fs.filter fun f => f.id = id ∧ f.dependencies ≠ []).getLast? = some g := by
    have h := getLast?_filter_of_getLast? (p := fun f => decide (f.dependencies ≠ []))
      ((get?_ofFragments id).symm.trans hg) (decide_eq_true hd)
    rw [List.filter_filter] at h
    rw [← h]
    refine congrArg List.getLast? (List.filter_congr fun f _ => ?_)
    rw [Bool.decide_and, Bool.and_comm]
  unfold referencesOf
  rw [get?_references, hlast]
  exact mem_distinct

/-- An id has no references only if none of its fragments has dependencies. -/
theorem referencesOf_eq_nil :
    (ofFragments resolves fs).referencesOf id = [] ↔ ∀ f ∈ fs, f.id = id → f.dependencies = [] := by
  constructor
  · intro h f hf hid
    by_contra hne
    have hmem : f ∈ fs.filter fun f => f.id = id ∧ f.dependencies ≠ [] :=
      List.mem_filter.mpr ⟨hf, decide_eq_true ⟨hid, hne⟩⟩
    have hlast := List.getLast?_eq_some_getLast (List.ne_nil_of_mem hmem)
    obtain ⟨_, hq⟩ := List.mem_filter.mp (List.mem_of_getLast? hlast)
    obtain ⟨r, hr⟩ := List.exists_mem_of_ne_nil _ (of_decide_eq_true hq).2
    have hr' : r ∈ (ofFragments resolves fs).referencesOf id := by
      unfold referencesOf
      rw [get?_references, hlast]
      exact mem_distinct.mpr hr
    rw [h] at hr'
    exact absurd hr' List.not_mem_nil
  · intro h
    refine List.eq_nil_iff_forall_not_mem.mpr fun r hr => ?_
    obtain ⟨f, hf, hid, hr⟩ := mem_of_mem_referencesOf hr
    rw [h f hf hid] at hr
    exact absurd hr List.not_mem_nil

/-- The references of an id are the dependencies of its fragment, unless it has none and an earlier one has some. -/
theorem references_current_iff (hg : (ofFragments resolves fs).get? id = some g) :
    (∀ r, r ∈ (ofFragments resolves fs).referencesOf id ↔ r ∈ g.dependencies) ↔
      (g.dependencies = [] → ∀ f ∈ fs, f.id = id → f.dependencies = []) := by
  by_cases hd : g.dependencies = []
  · have hnil : (∀ r, r ∈ (ofFragments resolves fs).referencesOf id ↔ r ∈ g.dependencies) ↔
        (ofFragments resolves fs).referencesOf id = [] := by
      rw [hd, List.eq_nil_iff_forall_not_mem]
      simp only [List.not_mem_nil, iff_false]
    rw [hnil, referencesOf_eq_nil]
    exact ⟨fun h _ => h, fun h => h hd⟩
  · exact ⟨fun _ h => absurd h hd, fun _ => mem_referencesOf_of_get? hg hd⟩

/-- What an id depends on, by any list of its references. -/
theorem dependencies_of_references {ix : Index} {refs : List String} (h : ∀ r, r ∈ ix.referencesOf id ↔ r ∈ refs) :
    ix.dependencies id = ix.getAll (inOrder (distinct (refs.flatMap ix.resolve))) := by
  unfold dependencies
  refine congrArg ix.getAll (inOrder_distinct_congr fun i => ?_)
  rw [List.mem_flatMap, List.mem_flatMap]
  exact exists_congr fun r => and_congr_left fun _ => h r

/-! ## 3. When the last fragment wins -/

theorem postings_current_iff (hg : (ofFragments resolves fs).get? id = some g) :
    (∀ t, id ∈ (Table.get? t (ofFragments resolves fs).postings).getD [] ↔ t ∈ g.tokens) ↔
      ∀ f ∈ fs, f.id = id → ∀ t ∈ f.tokens, t ∈ g.tokens := by
  have hmem : g ∈ fs := fragments_ofFragments resolves fs ▸ mem_of_get? hg
  constructor
  · intro h f hf hid t ht
    exact (h t).mp (mem_postings.mpr ⟨f, hf, hid, ht⟩)
  · intro h t
    rw [mem_postings]
    constructor
    · rintro ⟨f, hf, hid, ht⟩
      exact h f hf hid t ht
    · intro ht
      exact ⟨g, hmem, id_of_get? hg, ht⟩

/-- The results of a query have its terms exactly if every fragment found by an id has one of the terms that lead to
the id. -/
theorem search_current_iff (query : String) :
    (∀ g ∈ (ofFragments resolves fs).search query, ∃ t ∈ queryTerms query, t ∈ g.tokens) ↔
      ∀ f ∈ fs, (∃ t ∈ queryTerms query, t ∈ f.tokens) → ∀ g, (ofFragments resolves fs).get? f.id = some g →
        ∃ t ∈ queryTerms query, t ∈ g.tokens := by
  constructor
  · rintro h f hf ⟨t, ht, hft⟩ g hg
    have hid : f.id ∈ ((ofFragments resolves fs).search query).map (·.id) := mem_ids_search.mpr ⟨t, ht, f, hf, rfl, hft⟩
    obtain ⟨g', hg', hid'⟩ := List.mem_map.mp hid
    have hfound := get?_of_mem_search hg'
    rw [hid', hg] at hfound
    rw [Option.some.inj hfound]
    exact h g' hg'
  · intro h g hg
    obtain ⟨t, ht, f, hf, hid, hft⟩ := mem_ids_search.mp (List.mem_map_of_mem hg)
    refine h f hf ⟨t, ht, hft⟩ g ?_
    rw [hid]
    exact get?_of_mem_search hg

/-- **When the last fragment of an id wins.** The fragment found by an id is the last one that has it. What the other
views give of the id belongs to this fragment exactly if it has dependencies as soon as an earlier fragment of the id
has some, and has all tokens of the earlier ones. Otherwise a reference or a token of a fragment that is not found
any more stays in the index. -/
theorem last_wins_iff (resolves : Bool) (fs : List Fragment) :
    (∀ id, (ofFragments resolves fs).get? id = (fs.filter (·.id = id)).getLast?) ∧
    (LastWins (ofFragments resolves fs) ↔
      ∀ f ∈ fs, ∀ g, (ofFragments resolves fs).get? f.id = some g →
        (g.dependencies = [] → f.dependencies = []) ∧ ∀ t ∈ f.tokens, t ∈ g.tokens) := by
  refine ⟨get?_ofFragments, ?_, ?_⟩
  · intro h f hf g hg
    exact ⟨fun hd => (references_current_iff hg).mp (h.references f.id g hg) hd f hf rfl,
      (postings_current_iff hg).mp (h.postings f.id g hg) f hf rfl⟩
  · intro h
    have hreferences : ∀ id g, (ofFragments resolves fs).get? id = some g →
        ∀ r, r ∈ (ofFragments resolves fs).referencesOf id ↔ r ∈ g.dependencies := by
      intro id g hg
      refine (references_current_iff hg).mpr fun hd f hf hid => ?_
      subst hid
      exact (h f hf g hg).1 hd
    refine ⟨hreferences, fun id g hg => dependencies_of_references (hreferences id g hg), fun id g hg => ?_, ?_⟩
    · refine (postings_current_iff hg).mpr fun f hf hid => ?_
      subst hid
      exact (h f hf g hg).2
    · intro query
      refine (search_current_iff query).mpr ?_
      rintro f hf ⟨t, ht, hft⟩ g hg
      exact ⟨t, ht, (h f hf g hg).2 t hft⟩

/-- A property is a pair of methods of one id. Its getter depends on a unit and says so, its setter, which is found by
the id, does neither; but the id still depends on the unit, and a search for a word of the getter gives the setter. -/
theorem last_wins_setter :
    let getter := { member "m.Box.size" "size" ["m.Unit"] with documentation := some "Size in metres." }
    let setter := member "m.Box.size" "size" []
    let unit := member "m.Unit" "Unit" []
    let ix := ofFragments false [getter, setter, unit]
    ix.get? "m.Box.size" = some setter ∧ setter.dependencies = [] ∧
    (ix.dependencies "m.Box.size").map (·.id) = ["m.Unit"] ∧
    (ix.search "metres").map (·.id) = ["m.Box.size"] ∧ "metres" ∉ setter.tokens ∧ ¬ LastWins ix := by
  intro getter setter unit ix
  have hget : ix.get? "m.Box.size" = some setter := rfl
  have htoken : "metres" ∉ setter.tokens := by decide +kernel
  have hstale : "m.Box.size" ∈ (Table.get? "metres" ix.postings).getD [] := by decide +kernel
  refine ⟨hget, rfl, by decide +kernel, by decide +kernel, htoken, fun h => ?_⟩
  exact htoken ((h.postings _ _ hget "metres").mp hstale)

end FragmentSearch.Index
