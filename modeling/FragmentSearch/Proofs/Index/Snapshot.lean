import FragmentSearch.Index.Embedding
import FragmentSearch.Index.Search

/-!
# The snapshot of an index

Whatever a view of an index gives is one of the fragments of the index (`mem_dependencies`,
`mem_siblings`, `mem_search`, …), and the fragments of the index of a fragment set are that set
(`fragments_ofFragments`).
-/

namespace FragmentSearch.Index

/-! ## 1. Views -/

section Views

variable {ix : Index} {f : Fragment} {id : String}

theorem mem_of_get? (h : ix.get? id = some f) : f ∈ ix.fragments := by
  obtain ⟨i, _, hi⟩ := Option.bind_eq_some_iff.mp h
  exact List.mem_of_getElem? hi

theorem mem_of_getAll {ids : List String} (h : f ∈ ix.getAll ids) : f ∈ ix.fragments := by
  obtain ⟨_, _, hf⟩ := List.mem_filterMap.mp h
  exact mem_of_get? hf

theorem mem_of_pick {places : List Nat} (h : f ∈ ix.pick places) : f ∈ ix.fragments := by
  obtain ⟨_, _, hf⟩ := List.mem_filterMap.mp h
  exact List.mem_of_getElem? hf

theorem mem_dependencies (h : f ∈ ix.dependencies id) : f ∈ ix.fragments := mem_of_getAll h

theorem mem_dependents (h : f ∈ ix.dependents id) : f ∈ ix.fragments := mem_of_getAll h

theorem mem_siblings {g : Fragment} (h : g ∈ ix.siblings f) : g ∈ ix.fragments := by
  unfold siblings at h
  split at h
  · exact mem_of_pick (List.mem_filter.mp h).1
  · exact absurd h List.not_mem_nil

theorem mem_search {query : String} (h : f ∈ ix.search query) : f ∈ ix.fragments := mem_of_getAll h

end Views

/-! ## 2. Construction -/

theorem fragments_enter (ix : Index) (f : Fragment) (i : Nat) : (ix.enter f i).fragments = ix.fragments := rfl

theorem fragments_foldl_enter (ps : List (Fragment × Nat)) :
    ∀ ix : Index, (ps.foldl (fun ix p => ix.enter p.1 p.2) ix).fragments = ix.fragments := by
  induction ps with
  | nil => intro ix; rfl
  | cons p ps ih =>
      intro ix
      rw [List.foldl_cons, ih, fragments_enter]

/-- The index of a fragment set keeps the set in its order. -/
@[simp] theorem fragments_ofFragments (resolves : Bool) (fs : List Fragment) :
    (ofFragments resolves fs).fragments = fs :=
  fragments_foldl_enter fs.zipIdx (blank resolves fs)

end FragmentSearch.Index
