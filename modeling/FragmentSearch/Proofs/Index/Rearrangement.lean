import FragmentSearch.Proofs.Index.Relations

/-!
# Dependencies in another order

A rearrangement writes every list of dependencies anew, with the same names in it, but in another order or with other
repetitions. No view of an index reads more from such a list than which names are in it. So of rearranged fragments every
view gives what it gives of the fragments themselves, rearranged: `dependencies_rearranged`, `dependents_rearranged`,
`siblings_rearranged`, `search_rearranged`.
-/

namespace FragmentSearch

/-- A way to write lists of names anew with the same names in them. -/
structure Rearrangement where
  write : List String → List String
  mem_write : ∀ {names : List String} {n : String}, n ∈ write names ↔ n ∈ names

/-! ## 1. Fragments -/

/-- Whether a list holds a name depends on its members only. -/
theorem contains_congr {names names' : List String} (h : ∀ n, n ∈ names' ↔ n ∈ names) :
    names'.contains = names.contains := by
  funext n
  rw [List.contains_eq_mem, List.contains_eq_mem]
  exact decide_eq_decide.mpr (h n)

namespace Fragment

/-- The fragment with its dependencies written anew. -/
def rearranged (ρ : Rearrangement) (f : Fragment) : Fragment := { f with dependencies := ρ.write f.dependencies }

variable {ρ : Rearrangement} {f : Fragment}

@[simp] theorem id_rearranged : (f.rearranged ρ).id = f.id := rfl

@[simp] theorem name_rearranged : (f.rearranged ρ).name = f.name := rfl

@[simp] theorem package_rearranged : (f.rearranged ρ).package = f.package := rfl

theorem mem_dependencies_rearranged {n : String} : n ∈ (f.rearranged ρ).dependencies ↔ n ∈ f.dependencies :=
  ρ.mem_write

theorem dependencies_rearranged_eq_nil : (f.rearranged ρ).dependencies = [] ↔ f.dependencies = [] := by
  simp only [List.eq_nil_iff_forall_not_mem, mem_dependencies_rearranged]

end Fragment

namespace Index

variable {resolves : Bool} {fs : List Fragment} (ρ : Rearrangement)

/-! ## 2. Views -/

section Views

theorem place_rearranged :
    (ofFragments resolves (fs.map (·.rearranged ρ))).place = (ofFragments resolves fs).place := by
  rw [place_ofFragments, place_ofFragments, List.zipIdx_map, List.map_map]
  rfl

theorem postings_rearranged :
    (ofFragments resolves (fs.map (·.rearranged ρ))).postings = (ofFragments resolves fs).postings := by
  rw [postings_ofFragments, postings_ofFragments, List.flatMap_map]
  rfl

theorem get?_rearranged (id : String) :
    (ofFragments resolves (fs.map (·.rearranged ρ))).get? id =
      ((ofFragments resolves fs).get? id).map (·.rearranged ρ) := by
  unfold get?
  rw [place_rearranged, fragments_ofFragments, fragments_ofFragments]
  cases Table.get? id (ofFragments resolves fs).place with
  | none => rfl
  | some i => exact List.getElem?_map

theorem getAll_rearranged (ids : List String) :
    (ofFragments resolves (fs.map (·.rearranged ρ))).getAll ids =
      ((ofFragments resolves fs).getAll ids).map (·.rearranged ρ) := by
  unfold getAll
  rw [List.map_filterMap]
  exact List.filterMap_congr fun id _ => get?_rearranged ρ id

/-- A dependency stands for the same ids. -/
theorem mem_resolve_rearranged {id reference : String} :
    id ∈ (ofFragments resolves (fs.map (·.rearranged ρ))).resolve reference ↔
      id ∈ (ofFragments resolves fs).resolve reference := by
  simp only [mem_resolve, List.mem_map, exists_exists_and_eq_and, Fragment.id_rearranged, Fragment.name_rearranged]

/-- The references of an id are those of the same fragment, with the same names in them. -/
theorem get?_references_rearranged (id : String) :
    Table.get? id (ofFragments resolves (fs.map (·.rearranged ρ))).references =
      ((fs.filter fun f => f.id = id ∧ f.dependencies ≠ []).getLast?).map
        fun f => distinct (f.rearranged ρ).dependencies := by
  have hfilter : (fs.map (·.rearranged ρ)).filter (fun f => f.id = id ∧ f.dependencies ≠ []) =
      (fs.filter fun f => f.id = id ∧ f.dependencies ≠ []).map (·.rearranged ρ) := by
    rw [List.filter_map]
    refine congrArg (List.map _) (List.filter_congr fun f _ => decide_eq_decide.mpr ?_)
    exact and_congr_right' (not_congr Fragment.dependencies_rearranged_eq_nil)
  rw [get?_references, hfilter, List.getLast?_map, Option.map_map]
  rfl

theorem mem_referencesOf_rearranged {id r : String} :
    r ∈ (ofFragments resolves (fs.map (·.rearranged ρ))).referencesOf id ↔
      r ∈ (ofFragments resolves fs).referencesOf id := by
  unfold referencesOf
  rw [get?_references_rearranged, get?_references]
  cases (fs.filter fun f => f.id = id ∧ f.dependencies ≠ []).getLast? with
  | none => exact Iff.rfl
  | some f => exact mem_distinct.trans (Fragment.mem_dependencies_rearranged.trans mem_distinct.symm)

/-- Lists of references with the same names in them name the same fragments. -/
theorem namedIn_rearranged {refs refs' : List String} (h : ∀ r, r ∈ refs' ↔ r ∈ refs) (id : String) :
    (ofFragments resolves (fs.map (·.rearranged ρ))).namedIn id refs' = (ofFragments resolves fs).namedIn id refs := by
  unfold namedIn
  rw [resolvesNames_ofFragments, resolvesNames_ofFragments, get?_rearranged, contains_congr h]
  cases (ofFragments resolves fs).get? id with
  | none => rfl
  | some f => simp only [Option.map_some, Option.bind_some, Fragment.name_rearranged]

end Views

/-! ## 3. Relations -/

section Relations

theorem dependencies_rearranged (id : String) :
    (ofFragments resolves (fs.map (·.rearranged ρ))).dependencies id =
      ((ofFragments resolves fs).dependencies id).map (·.rearranged ρ) := by
  unfold dependencies
  rw [getAll_rearranged]
  refine congrArg (List.map _ <| getAll _ ·) (inOrder_distinct_congr fun i => ?_)
  simp only [List.mem_flatMap, mem_referencesOf_rearranged, mem_resolve_rearranged]

theorem dependents_rearranged (id : String) :
    (ofFragments resolves (fs.map (·.rearranged ρ))).dependents id =
      ((ofFragments resolves fs).dependents id).map (·.rearranged ρ) := by
  have hnodup : ∀ gs : List Fragment, (((ofFragments resolves gs).references.filter fun e =>
      (ofFragments resolves gs).namedIn id e.2).map (·.1)).Nodup :=
    fun gs => nodup_references.sublist (List.filter_sublist.map _)
  unfold dependents
  rw [getAll_rearranged]
  refine congrArg (List.map _ <| getAll _ ·) (inOrder_congr ?_)
  refine (List.perm_ext_iff_of_nodup (hnodup _) (hnodup _)).mpr fun i => ?_
  rw [mem_map_namedIn nodup_references, mem_map_namedIn nodup_references,
    get?_references_rearranged, get?_references]
  cases (fs.filter fun f => f.id = i ∧ f.dependencies ≠ []).getLast? with
  | none => simp only [Option.map_none, reduceCtorEq, false_and, exists_false]
  | some f =>
      have hsame : ∀ r, r ∈ distinct (f.rearranged ρ).dependencies ↔ r ∈ distinct f.dependencies :=
        fun r => mem_distinct.trans (Fragment.mem_dependencies_rearranged.trans mem_distinct.symm)
      simp only [Option.map_some, Option.some.injEq, exists_eq_left', namedIn_rearranged ρ hsame]

theorem siblings_rearranged (f : Fragment) :
    (ofFragments resolves (fs.map (·.rearranged ρ))).siblings (f.rearranged ρ) =
      ((ofFragments resolves fs).siblings f).map (·.rearranged ρ) := by
  unfold siblings
  rw [Fragment.package_rearranged]
  cases f.package with
  | none => rfl
  | some p =>
      simp only [byPackage_ofFragments, List.filter_map]
      rfl

theorem search_rearranged (query : String) :
    (ofFragments resolves (fs.map (·.rearranged ρ))).search query =
      ((ofFragments resolves fs).search query).map (·.rearranged ρ) := by
  have hcount : (ofFragments resolves (fs.map (·.rearranged ρ))).countHits = (ofFragments resolves fs).countHits := by
    funext hits term
    unfold countHits
    rw [postings_rearranged]
  unfold search hits
  rw [hcount, getAll_rearranged]

end Relations

end Index

end FragmentSearch
