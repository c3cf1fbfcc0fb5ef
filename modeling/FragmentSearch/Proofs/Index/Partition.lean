import FragmentSearch.Proofs.Index.Attachment

/-!
# The views of an index as partitions

The kinds and the packages part the fragments of an index into groups, and vectors change none of them.

* `Partition` -- the groups hold the members of a list, each in one group and in the order of the list;
* `partition_filter` -- the members of each key are such groups, if no key is listed twice and none is missing;
* `Viewed` -- what the views of an index give of its fragments, and `Keeps` -- what vectors leave of them;
* `views_partition` -- both hold of the index of any fragments, whatever ids are repeated.
-/

namespace FragmentSearch

/-! ## 1. Groups of a list -/

section Groups

variable {α κ : Type}

/-- Do the groups hold the members of the list, each in one of them? -/
structure Partition (groups : List (List α)) (xs : List α) : Prop where
  /-- Together the groups have the members of the list, each as often as the list has it. -/
  members : groups.flatten.Perm xs
  /-- Each group keeps the order of the list. -/
  ordered : ∀ g ∈ groups, g.Sublist xs
  /-- No member stands in two groups. -/
  apart : groups.Pairwise List.Disjoint

variable [DecidableEq κ] {key : α → κ} {ks : List κ}

theorem disjoint_filter_key {k l : κ} (h : k ≠ l) (xs : List α) :
    List.Disjoint (xs.filter (key · = k)) (xs.filter (key · = l)) := by
  intro x hk hl
  have hxk : key x = k := of_decide_eq_true (List.mem_filter.mp hk).2
  have hxl : key x = l := of_decide_eq_true (List.mem_filter.mp hl).2
  exact h (hxk.symm.trans hxl)

/-- The members of each key together are all members. -/
theorem flatMap_filter_perm (hks : ks.Nodup) {xs : List α} (hall : ∀ x ∈ xs, key x ∈ ks) :
    (ks.flatMap fun k => xs.filter (key · = k)).Perm xs := by
  induction ks generalizing xs with
  | nil =>
      have hnil : xs = [] := List.eq_nil_iff_forall_not_mem.mpr fun x hx => absurd (hall x hx) List.not_mem_nil
      rw [hnil]
      exact List.Perm.nil
  | cons k ks ih =>
      obtain ⟨hk, hks⟩ := List.nodup_cons.mp hks
      have hrest : ∀ x ∈ xs.filter (key · ≠ k), key x ∈ ks := by
        intro x hx
        obtain ⟨hmem, hne⟩ := List.mem_filter.mp hx
        exact (List.mem_cons.mp (hall x hmem)).resolve_left (of_decide_eq_true hne)
      -- the groups of the other keys are the same without the members of `k`
      have hsame : (ks.flatMap fun l => xs.filter (key · = l)) =
          ks.flatMap fun l => (xs.filter (key · ≠ k)).filter (key · = l) := by
        refine List.flatMap_congr fun l hl => ?_
        have hlk : l ≠ k := fun e => hk (e ▸ hl)
        rw [List.filter_filter]
        refine List.filter_congr fun x _ => ?_
        by_cases hx : key x = l
        · simp [hx, hlk]
        · simp [hx]
      have hsplit : (xs.filter (key · = k) ++ xs.filter (key · ≠ k)).Perm xs := by
        simpa using List.filter_append_perm (fun x => decide (key x = k)) xs
      rw [List.flatMap_cons, hsame]
      exact ((ih hks hrest).append_left _).trans hsplit

/-- **The members of each key are the groups of a partition.** -/
theorem partition_filter (hks : ks.Nodup) {xs : List α} (hall : ∀ x ∈ xs, key x ∈ ks) :
    Partition (ks.map fun k => xs.filter (key · = k)) xs where
  members := by
    rw [← List.flatMap_def]
    exact flatMap_filter_perm hks hall
  ordered := by
    intro g hg
    obtain ⟨k, _, rfl⟩ := List.mem_map.mp hg
    exact List.filter_sublist
  apart := List.pairwise_map.mpr (hks.imp fun {k l} h => disjoint_filter_key h xs)

end Groups

namespace Index

variable {resolves : Bool} {fs : List Fragment} {ix : Index}

/-! ## 2. What the views give -/

section Views

/-- What the views of an index give of its fragments. -/
structure Viewed (ix : Index) : Prop where
  size : ix.size = ix.fragments.length
  ofKind : ∀ k, ix.byKind k = ix.fragments.filter (·.kind = k)
  kinds : Partition (Kind.all.map ix.byKind) ix.fragments
  ofPackage : ∀ p, ix.byPackage p = ix.fragments.filter (·.package = some p)
  /-- Together with the fragments without a package the packages are the groups of a partition. -/
  packages : Partition (ix.fragments.filter (·.package = none) :: ix.packages.map ix.byPackage) ix.fragments
  /-- The packages are those that a fragment has, in order and each once. -/
  named : ∀ p, p ∈ ix.packages ↔ ∃ f ∈ ix.fragments, f.package = some p
  sorted : ix.packages.Pairwise (· < ·)
  counts : ix.kindCounts = Kind.all.map fun k => (k, ix.fragments.countP (·.kind = k))
  total : (ix.kindCounts.map (·.2)).sum = ix.size
  /-- Of an id the last record is found, and none if no record has it. -/
  found : ∀ id, ix.get? id = (ix.fragments.filter (·.id = id)).getLast?
  unknown : ∀ id, ix.get? id = none ↔ ∀ f ∈ ix.fragments, f.id ≠ id
  postings : ∀ id t, id ∈ (Table.get? t ix.postings).getD [] ↔ ∃ f ∈ ix.fragments, f.id = id ∧ t ∈ f.tokens

theorem nodup_kinds : Kind.all.Nodup := by decide

theorem mem_packages {p : String} : p ∈ (ofFragments resolves fs).packages ↔ ∃ f ∈ fs, f.package = some p := by
  rw [packages, mem_inOrder, ofPackage_ofFragments, Table.mem_keys_foldl_file]
  constructor
  · intro h
    obtain ⟨e, he, rfl⟩ := List.mem_map.mp h
    obtain ⟨q, hq, hentry⟩ := List.mem_filterMap.mp he
    obtain ⟨p, hp, rfl⟩ := Option.map_eq_some_iff.mp hentry
    exact ⟨q.1, List.fst_mem_of_mem_zipIdx hq, hp⟩
  · intro h
    obtain ⟨f, hf, hp⟩ := h
    obtain ⟨i, hi⟩ := List.mem_iff_getElem?.mp hf
    have hq : (f, i) ∈ fs.zipIdx := List.mem_zipIdx_iff_getElem?.mpr hi
    refine List.mem_map.mpr ⟨(p, i), List.mem_filterMap.mpr ⟨(f, i), hq, ?_⟩, rfl⟩
    rw [hp]
    rfl

theorem pairwise_packages : (ofFragments resolves fs).packages.Pairwise (· < ·) := by
  rw [packages, ofPackage_ofFragments]
  exact pairwise_inOrder (Table.nodup_foldl_file _)

theorem partition_packages : Partition
    (fs.filter (·.package = none) :: (ofFragments resolves fs).packages.map (ofFragments resolves fs).byPackage) fs := by
  have hkeys : (none :: (ofFragments resolves fs).packages.map some).Nodup := by
    have hpackages : (ofFragments resolves fs).packages.Nodup := pairwise_packages.imp fun {p q} h => String.ne_of_lt h
    refine List.nodup_cons.mpr ⟨fun h => ?_, hpackages.map fun _ _ e => Option.some.inj e⟩
    obtain ⟨p, _, hp⟩ := List.mem_map.mp h
    cases hp
  have hall : ∀ f ∈ fs, f.package ∈ none :: (ofFragments resolves fs).packages.map some := by
    intro f hf
    cases hp : f.package with
    | none => exact List.mem_cons_self
    | some p => exact List.mem_cons_of_mem _ (List.mem_map_of_mem (mem_packages.mpr ⟨f, hf, hp⟩))
  have hgroups := partition_filter hkeys hall
  rw [List.map_cons, List.map_map] at hgroups
  have hnamed : (ofFragments resolves fs).packages.map (ofFragments resolves fs).byPackage =
      (ofFragments resolves fs).packages.map ((fun k => fs.filter (·.package = k)) ∘ some) :=
    List.map_congr_left fun p _ => byPackage_ofFragments p
  rw [hnamed]
  exact hgroups

/-- **The views of the index of some fragments.** -/
theorem viewed_ofFragments : Viewed (ofFragments resolves fs) where
  size := rfl
  ofKind := fun k => by rw [byKind_ofFragments, fragments_ofFragments]
  kinds := by
    have hkinds : Kind.all.map (ofFragments resolves fs).byKind = Kind.all.map fun k => fs.filter (·.kind = k) :=
      List.map_congr_left fun k _ => byKind_ofFragments k
    rw [hkinds, fragments_ofFragments]
    exact partition_filter nodup_kinds fun f _ => Kind.mem_all f.kind
  ofPackage := fun p => by rw [byPackage_ofFragments, fragments_ofFragments]
  packages := by
    rw [fragments_ofFragments]
    exact partition_packages
  named := fun p => by rw [mem_packages, fragments_ofFragments]
  sorted := pairwise_packages
  counts := by
    refine List.map_congr_left fun k _ => ?_
    rw [byKind_ofFragments, fragments_ofFragments, List.countP_eq_length_filter]
  total := by rw [sum_kindCounts, size, fragments_ofFragments]
  found := fun id => by rw [get?_ofFragments, fragments_ofFragments]
  unknown := fun id => by
    rw [get?_ofFragments, fragments_ofFragments, List.getLast?_eq_none_iff, List.filter_eq_nil_iff]
    simp only [decide_eq_true_eq, ne_eq]
  postings := fun id t => by rw [mem_postings, fragments_ofFragments]

end Views

/-! ## 3. What vectors leave -/

section Vectors

/-- What is left of an index once the vectors of a table are attached to it. -/
structure Keeps (ix : Index) (vectors : Table String (List Float)) (after : Index) : Prop where
  /-- No view changes. -/
  views : after = { ix with fragments := after.fragments }
  viewed : Viewed after
  /-- At the places of a view stand the same fragments, vectors aside. -/
  places : ∀ is : List Nat, (after.pick is).map Fragment.bare = (ix.pick is).map Fragment.bare
  /-- The fragment found by an id of the table has its vector. -/
  given : ∀ id f xs, ix.get? id = some f → Table.get? id (Table.ofList vectors) = some xs →
    after.get? id = some { f with embedding := some xs }
  /-- Any other is as it was. -/
  others : ∀ (i : Nat) (f : Fragment), ix.fragments[i]? = some f →
    Table.get? f.id ix.place ≠ some i ∨ f.id ∉ Table.keys vectors → after.fragments[i]? = some f

/-- **What attached vectors leave of the index of some fragments.** -/
theorem keeps_attachAll (vectors : Table String (List Float)) :
    Keeps (ofFragments resolves fs) vectors ((ofFragments resolves fs).attachAll vectors).1 where
  views := attachAll_views _ _
  viewed := by
    obtain ⟨gs, _, hix⟩ : ∃ gs : List Fragment, gs.map Fragment.bare = fs.map Fragment.bare ∧
      ((ofFragments resolves fs).attachAll vectors).1 = ofFragments resolves gs := exists_ofFragments_attachAll vectors
    rw [hix]
    exact viewed_ofFragments
  places := by
    intro is
    have hbare := map_bare_attachAll (ofFragments resolves fs) vectors
    unfold pick
    rw [List.map_filterMap, List.map_filterMap]
    refine List.filterMap_congr fun i _ => ?_
    rw [← List.getElem?_map, ← List.getElem?_map, hbare]
  given := by
    intro id f xs hf hxs
    obtain ⟨i, hplace, hi⟩ := Option.bind_eq_some_iff.mp hf
    have hid : f.id = id := id_of_get? hf
    rw [fragments_ofFragments] at hi
    rw [get?, place_attachAll, hplace, Option.bind_some, getElem?_attachAll, hi, Option.map_some, hid, if_pos hplace,
      Fragment.given, hid, hxs]
    rfl
  others := by
    intro i f hf hor
    rw [fragments_ofFragments] at hf
    rw [getElem?_attachAll, hf, Option.map_some]
    by_cases hplace : Table.get? f.id (ofFragments resolves fs).place = some i
    · have hkey : f.id ∉ Table.keys (Table.ofList vectors) := fun h =>
        hor.elim (fun hne => hne hplace) fun hnot => hnot (Table.mem_keys_ofList.mp h)
      rw [if_pos hplace, Fragment.given, Table.get?_eq_none.mpr hkey]
      rfl
    · rw [if_neg hplace]

/-- **The views of an index part its fragments, and vectors change none of them.** The index of some fragments holds
them in their order, whatever ids are repeated. `Viewed` says what its views give: kinds and packages are partitions,
an id finds its last record, and under a token stand the ids of the records that have it. A table of vectors changes the
vectors of the records that its ids find, and nothing else. -/
theorem views_partition (resolves : Bool) (fs : List Fragment) :
    (ofFragments resolves fs).fragments = fs ∧ Viewed (ofFragments resolves fs) ∧
      ∀ vectors : Table String (List Float),
        Keeps (ofFragments resolves fs) vectors ((ofFragments resolves fs).attachAll vectors).1 :=
  ⟨fragments_ofFragments resolves fs, viewed_ofFragments, keeps_attachAll⟩

end Vectors

end Index

end FragmentSearch
