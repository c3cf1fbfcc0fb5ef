import FragmentSearch.Proofs.Index.Relations
import FragmentSearch.Proofs.Ranking.Expansion

/-!
# Resolving names loses nothing

An index that resolves names finds for every id at least what the plain index of the same fragments finds
(`dependencies_resolving`, `dependents_resolving`). For the expansion, which visits more and in another order then,
this is carried over by distances, which more steps can only make shorter (`Distance.mono`):

* `standFor rs f` -- the fragment that an expansion finds where `f` is a neighbour: a root, if one has the id of `f`.
  It is another one than `f` where the start was not taken from the index;
* `mem_expand_roots_iff` -- so whatever the start, an expansion finds what is within `maxDepth` steps from its roots,
  each at its distance;
* `expand_resolving` -- what the plain index reaches, the resolving one reaches, and no later.
-/

namespace FragmentSearch

namespace Index

/-! ## 1. What resolving adds -/

section Resolving

variable {fs : List Fragment} {g : Fragment} {id : String}

theorem resolve_resolving {reference : String} (h : id ∈ (ofFragments false fs).resolve reference) :
    id ∈ (ofFragments true fs).resolve reference := by
  obtain ⟨f, hf, hid, h⟩ := mem_resolve.mp h
  rcases h with h | ⟨h, _⟩
  · exact mem_resolve.mpr ⟨f, hf, hid, Or.inl h⟩
  · cases h

theorem get?_resolving (fs : List Fragment) (id : String) :
    (ofFragments true fs).get? id = (ofFragments false fs).get? id := by
  rw [get?_ofFragments, get?_ofFragments]

theorem references_resolving (fs : List Fragment) :
    (ofFragments true fs).references = (ofFragments false fs).references := by
  rw [references_ofFragments, references_ofFragments]

theorem siblings_resolving (fs : List Fragment) (f : Fragment) :
    (ofFragments true fs).siblings f = (ofFragments false fs).siblings f := by
  unfold siblings
  cases f.package with
  | none => rfl
  | some p =>
      simp only [byPackage_ofFragments]

/-- Forwards, a resolving index finds all that the plain one finds. -/
theorem dependencies_resolving (h : g ∈ (ofFragments false fs).dependencies id) :
    g ∈ (ofFragments true fs).dependencies id := by
  unfold dependencies referencesOf at h ⊢
  rw [mem_getAll] at h ⊢
  obtain ⟨i, hi, hg⟩ := h
  rw [mem_inOrder, mem_distinct, List.mem_flatMap] at hi
  obtain ⟨r, hr, hi⟩ := hi
  refine ⟨i, ?_, (get?_resolving fs i).trans hg⟩
  rw [mem_inOrder, mem_distinct, List.mem_flatMap, references_resolving]
  exact ⟨r, hr, resolve_resolving hi⟩

theorem namedIn_resolving {refs : List String} (h : (ofFragments false fs).namedIn id refs = true) :
    (ofFragments true fs).namedIn id refs = true := by
  unfold namedIn at h ⊢
  rw [resolvesNames_ofFragments, Bool.false_and, Bool.or_false] at h
  rw [h, Bool.true_or]

/-- Backwards, a resolving index finds all that the plain one finds. -/
theorem dependents_resolving (h : g ∈ (ofFragments false fs).dependents id) :
    g ∈ (ofFragments true fs).dependents id := by
  unfold dependents at h ⊢
  rw [mem_getAll] at h ⊢
  obtain ⟨i, hi, hg⟩ := h
  rw [mem_inOrder, List.mem_map] at hi
  obtain ⟨e, he, rfl⟩ := hi
  obtain ⟨hmem, hnamed⟩ := List.mem_filter.mp he
  refine ⟨e.1, ?_, (get?_resolving fs e.1).trans hg⟩
  rw [mem_inOrder, List.mem_map, references_resolving]
  exact ⟨e, List.mem_filter.mpr ⟨hmem, namedIn_resolving hnamed⟩, rfl⟩

end Resolving

end Index

namespace Proximity

theorem neighbours_resolving {fs : List Fragment} {f g : Fragment} (h : g ∈ neighbours (.ofFragments false fs) f) :
    g ∈ neighbours (.ofFragments true fs) f := by
  rw [mem_neighbours] at h ⊢
  unfold Neighbour at h ⊢
  rw [Index.siblings_resolving]
  exact h.imp Index.dependencies_resolving (Or.imp_left Index.dependents_resolving)

/-! ## 2. Any start -/

/-- The fragment found where `f` is a neighbour: that of the roots with its id, if there is one. -/
def standFor (rs : List Fragment) (f : Fragment) : Fragment := (rs.find? (·.id = f.id)).getD f

section Start

variable {start rs : List Fragment} {f : Fragment} {found : List Reached} {d : Nat}

/-- A fragment stands for itself, or a root stands for it. -/
theorem standFor_cases (rs : List Fragment) (f : Fragment) :
    (standFor rs f ∈ rs ∧ (standFor rs f).id = f.id) ∨ (standFor rs f = f ∧ ∀ s ∈ rs, s.id ≠ f.id) := by
  unfold standFor
  cases h : rs.find? (·.id = f.id) with
  | none =>
      refine Or.inr ⟨rfl, fun s hs e => ?_⟩
      exact List.find?_eq_none.mp h s hs (decide_eq_true e)
  | some s =>
      have hid := List.find?_some h
      exact Or.inl ⟨List.mem_of_find?_eq_some h, of_decide_eq_true hid⟩

/-- Every root has been found. -/
def Covers (rs : List Fragment) (found : List Reached) : Prop := ∀ s ∈ rs, ∃ r ∈ found, r.fragment.id = s.id

theorem Covers.append (h : Covers rs found) (new : List Reached) : Covers rs (found ++ new) := by
  intro s hs
  obtain ⟨r, hr, e⟩ := h s hs
  exact ⟨r, List.mem_append_left _ hr, e⟩

theorem Covers.reach (h : Covers rs found) (d : Nat) (f : Fragment) : Covers rs (reach d found f) := by
  rcases reach_eq d found f with ⟨_, e⟩ | ⟨_, e⟩
  · rw [e]
    exact h
  · rw [e]
    exact h.append _

theorem covers_roots (start : List Fragment) : Covers (roots start) (start.foldl (reach 0) []) := by
  intro s hs
  obtain ⟨r, hr, rfl⟩ := List.mem_map.mp hs
  exact ⟨r, hr, rfl⟩

/-- Once the roots have been found it does not matter who stands for whom. -/
theorem reach_standFor (h : Covers rs found) (d : Nat) (f : Fragment) :
    reach d found (standFor rs f) = reach d found f := by
  rcases standFor_cases rs f with ⟨hmem, hid⟩ | ⟨e, _⟩
  · obtain ⟨r, hr, hrid⟩ := h _ hmem
    have hany : found.any (·.fragment.id = f.id) = true :=
      List.any_eq_true.mpr ⟨r, hr, decide_eq_true (hrid.trans hid)⟩
    unfold reach
    rw [hid, if_pos hany, if_pos hany]
  · rw [e]

theorem foldl_reach_standFor (d : Nat) (cs : List Fragment) : ∀ {found : List Reached}, Covers rs found →
    (cs.map (standFor rs)).foldl (reach d) found = cs.foldl (reach d) found := by
  induction cs with
  | nil => intro _ _; rfl
  | cons f cs ih =>
      intro found h
      rw [List.map_cons, List.foldl_cons, List.foldl_cons, reach_standFor h]
      exact ih (h.reach d f)

/-- So the steps may be taken to those who stand for the neighbours. -/
theorem widen_standFor (next : Fragment → List Fragment) (steps : Nat) :
    ∀ (d : Nat) (frontier : List Fragment) {found : List Reached}, Covers rs found →
      widen (fun f => (next f).map (standFor rs)) steps d frontier found = widen next steps d frontier found := by
  induction steps with
  | zero => intro d frontier found _; rfl
  | succ steps ih =>
      intro d frontier found h
      obtain ⟨new, a⟩ := exists_adds (d + 1) (frontier.flatMap next) found
      have hmap : frontier.flatMap (fun f => (next f).map (standFor rs)) = (frontier.flatMap next).map (standFor rs) :=
        List.map_flatMap.symm
      have hcovers : Covers rs ((frontier.flatMap next).foldl (reach (d + 1)) found) := by
        rw [a.result]
        exact h.append new
      simp only [widen, hmap, foldl_reach_standFor (d + 1) _ h]
      exact ih (d + 1) _ hcovers

end Start

section Expansion

variable {ix : Index} {start : List Fragment}

/-- One step in an expansion from `rs`: to a neighbour, or to the root that stands for it. -/
def Near (ix : Index) (rs : List Fragment) (f g : Fragment) : Prop := g ∈ (neighbours ix f).map (standFor rs)

/-- What an expansion can find: the roots, and the fragments of the index with other ids. -/
def Findable (ix : Index) (rs : List Fragment) (f : Fragment) : Prop :=
  f ∈ rs ∨ f ∈ ix.fragments ∧ ∀ s ∈ rs, s.id ≠ f.id

theorem apart_findable (hk : Apart (· ∈ ix.fragments)) (start : List Fragment) : Apart (Findable ix (roots start)) := by
  rintro f g (hf | ⟨hf, hf'⟩) (hg | ⟨hg, hg'⟩) e
  · exact apart_of_nodup (nodup_roots start) f g hf hg e
  · exact absurd e (hg' f hf)
  · exact absurd e.symm (hf' g hg)
  · exact hk f g hf hg e

theorem findable_of_near {rs : List Fragment} {f g : Fragment} (h : Near ix rs f g) : Findable ix rs g := by
  obtain ⟨g, hg, rfl⟩ := List.mem_map.mp h
  rcases standFor_cases rs g with ⟨hmem, _⟩ | ⟨e, hne⟩
  · exact Or.inl hmem
  · rw [e]
    exact Or.inr ⟨neighbours_known hg, hne⟩

/-- **What an expansion finds from any start**: what is within `maxDepth` steps from the roots, each at its
distance. -/
theorem mem_expand_roots_iff (hk : Apart (· ∈ ix.fragments)) (start : List Fragment) (g : Fragment) (n : Nat) :
    ⟨g, n⟩ ∈ expand ix start ↔ Distance (Near ix (roots start)) (roots start) g n ∧ n ≤ maxDepth := by
  obtain ⟨last, l⟩ := level_widen (apart_findable hk start) (fun _ _ _ h => findable_of_near h) (fun _ => Or.inl)
    maxDepth 0 _ _ (level_roots (fun f => (neighbours ix f).map (standFor (roots start))) start)
  rw [widen_standFor (neighbours ix) maxDepth 0 (roots start) (covers_roots start), Nat.zero_add] at l
  exact l.exact g n

end Expansion

/-! ## 3. Nothing is lost -/

/-- **Resolving names loses nothing.** Of every id, the resolving index finds all dependencies and all dependents that
the plain index of the same fragments finds, whether ids occur twice or not. If they do not, then from any start the
resolving index reaches every fragment that the plain one reaches, in no more steps. -/
theorem expand_resolving (fs : List Fragment) :
    (∀ id, ∀ g ∈ (Index.ofFragments false fs).dependencies id, g ∈ (Index.ofFragments true fs).dependencies id) ∧
    (∀ id, ∀ g ∈ (Index.ofFragments false fs).dependents id, g ∈ (Index.ofFragments true fs).dependents id) ∧
    ((fs.map (·.id)).Nodup → ∀ start, ∀ r ∈ expand (.ofFragments false fs) start,
      ∃ r' ∈ expand (.ofFragments true fs) start, r'.fragment = r.fragment ∧ r'.depth ≤ r.depth) := by
  refine ⟨fun id g => Index.dependencies_resolving, fun id g => Index.dependents_resolving, ?_⟩
  intro hids start r hr
  have hk : ∀ resolves, Apart (· ∈ (Index.ofFragments resolves fs).fragments) := by
    intro resolves
    rw [Index.fragments_ofFragments]
    exact apart_of_nodup hids
  have hnear : ∀ f g, Near (.ofFragments false fs) (roots start) f g → Near (.ofFragments true fs) (roots start) f g := by
    intro f g h
    obtain ⟨g, hg, rfl⟩ := List.mem_map.mp h
    exact List.mem_map_of_mem (neighbours_resolving hg)
  obtain ⟨hd, hn⟩ := (mem_expand_roots_iff (hk false) start r.fragment r.depth).mp hr
  obtain ⟨m, hm, hd'⟩ := hd.mono hnear
  exact ⟨⟨r.fragment, m⟩, (mem_expand_roots_iff (hk true) start r.fragment m).mpr ⟨hd', Nat.le_trans hm hn⟩, rfl, hm⟩

/-- A method without a package. -/
def loose (id name : String) (dependencies : List String) : Fragment := { link id dependencies with name := some name }

/-- A method names another one by its id, and by its bare name one that is two steps away in the plain index: in the
resolving index that one is one step away. -/
theorem expand_resolving_shortcut :
    let fs := [loose "m.a" "a" ["m.b", "c"], loose "m.b" "b" ["m.c"], loose "m.c" "c" []]
    let start := [loose "m.a" "a" ["m.b", "c"]]
    (fs.map (·.id)).Nodup ∧
    ⟨loose "m.c" "c" [], 2⟩ ∈ expand (.ofFragments false fs) start ∧
    (∃ r ∈ expand (.ofFragments true fs) start, r.fragment = loose "m.c" "c" [] ∧ r.depth ≤ 2) ∧
    ⟨loose "m.c" "c" [], 1⟩ ∈ expand (.ofFragments true fs) start := by
  intro fs start
  have hids : (fs.map (·.id)).Nodup := by decide
  have hplain : ⟨loose "m.c" "c" [], 2⟩ ∈ expand (.ofFragments false fs) start := by decide +kernel
  obtain ⟨_, _, hexpand⟩ := expand_resolving fs
  refine ⟨hids, hplain, hexpand hids start _ hplain, ?_⟩
  have hstart : ∀ s ∈ start, s ∈ (Index.ofFragments true fs).fragments := by
    rw [Index.fragments_ofFragments]
    decide
  have hk : Apart (· ∈ (Index.ofFragments true fs).fragments) := by
    rw [Index.fragments_ofFragments]
    exact apart_of_nodup hids
  have hstep : Neighbour (.ofFragments true fs) (loose "m.a" "a" ["m.b", "c"]) (loose "m.c" "c" []) :=
    Or.inl ((Index.mem_dependencies_iff hids (by decide)).mpr ⟨by decide, Or.inr ⟨rfl, "c", by decide, rfl⟩⟩)
  refine (mem_expand_iff hk hstart _ 1).mpr ⟨⟨⟨_, List.mem_singleton_self _, .step .here hstep⟩, ?_⟩, by decide⟩
  intro s hs m w
  obtain rfl := List.mem_singleton.mp hs
  rcases Nat.eq_zero_or_pos m with rfl | hm
  · exact absurd (walk_zero.mp w) (by decide)
  · exact hm

end Proximity

end FragmentSearch
