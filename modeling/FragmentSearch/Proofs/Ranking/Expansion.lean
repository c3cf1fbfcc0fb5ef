import FragmentSearch.Proofs.Ranking.Distance
import FragmentSearch.Proofs.Ranking.Table

/-!
# The ranking by proximity

The ranking by proximity gives the fragments that the expansion of its seeds finds, each with its score
(`tableFrom_eq`). With what is known about the expansion (`mem_expand_iff`) these are the fragments within
`maxDepth` steps from the seeds: `expand_exact`.
-/

namespace FragmentSearch.Proximity

/-! ## 1. The score table -/

section Table

variable {α : Type}

variable [Score α] {ix : Index} {start : List Fragment}

/-- Every fragment that the expansion finds is entered, with its score. -/
theorem tableFrom_eq (hk : Apart (· ∈ ix.fragments)) (hstart : ∀ s ∈ start, s ∈ ix.fragments) :
    tableFrom (α := α) ix start = (expand ix start).map fun r => ⟨r.fragment, score start r.fragment⟩ := by
  obtain ⟨_, l⟩ := level_expand hk hstart
  exact ScoreTable.foldl_put_eq Reached.fragment (fun r => score start r.fragment) (expand ix start) [] l.once

theorem seeds_known (ix : Index) (query : String) : ∀ s ∈ seeds ix query, s ∈ ix.fragments :=
  fun _ hs => Index.mem_search (List.mem_of_mem_take hs)

theorem table_of_no_seeds {query : String} (h : seeds ix query = []) : table (α := α) ix query = [] := by
  unfold table
  rw [h]
  rfl

theorem table_of_seeds {query : String} (h : seeds ix query ≠ []) :
    table (α := α) ix query = tableFrom ix (seeds ix query) := by
  unfold table
  exact if_neg fun h' => h (List.isEmpty_iff.mp h')

/-- The fragments of the score table are those within `maxDepth` steps from the seeds. -/
theorem mem_table_iff (hk : Apart (· ∈ ix.fragments)) (query : String) (g : Fragment) :
    g ∈ (table (α := α) ix query).map (·.fragment) ↔
      ∃ n ≤ maxDepth, Distance (Neighbour ix) (seeds ix query) g n := by
  by_cases h : seeds ix query = []
  · -- without seeds there are no walks either
    rw [table_of_no_seeds h]
    refine ⟨fun hg => absurd hg List.not_mem_nil, ?_⟩
    rintro ⟨n, _, hd⟩
    obtain ⟨s, hs, _⟩ := hd.walk
    rw [h] at hs
    exact absurd hs List.not_mem_nil
  · rw [table_of_seeds h, tableFrom_eq hk (seeds_known ix query), List.map_map, List.mem_map]
    constructor
    · rintro ⟨r, hr, rfl⟩
      obtain ⟨hd, hn⟩ := (mem_expand_iff hk (seeds_known ix query) r.fragment r.depth).mp hr
      exact ⟨r.depth, hn, hd⟩
    · rintro ⟨n, hn, hd⟩
      exact ⟨⟨g, n⟩, (mem_expand_iff hk (seeds_known ix query) g n).mpr ⟨hd, hn⟩, rfl⟩

theorem known_foldl_reach (d : Nat) {cs : List Fragment} (hcs : ∀ f ∈ cs, f ∈ ix.fragments) {found : List Reached}
    (hfound : ∀ r ∈ found, r.fragment ∈ ix.fragments) :
    ∀ r ∈ cs.foldl (reach d) found, r.fragment ∈ ix.fragments := by
  obtain ⟨new, a⟩ := exists_adds d cs found
  rw [a.result]
  intro r hr
  rcases List.mem_append.mp hr with hr | hr
  · exact hfound r hr
  · exact hcs _ (a.source r hr)

theorem known_widen (steps : Nat) : ∀ (d : Nat) (frontier : List Fragment) (found : List Reached),
    (∀ r ∈ found, r.fragment ∈ ix.fragments) →
    ∀ r ∈ widen (neighbours ix) steps d frontier found, r.fragment ∈ ix.fragments := by
  induction steps with
  | zero => intro d frontier found h; exact h
  | succ steps ih =>
      intro d frontier found h
      refine ih (d + 1) _ _ (known_foldl_reach _ (fun g hg => ?_) h)
      obtain ⟨f, _, hg⟩ := List.mem_flatMap.mp hg
      exact neighbours_known hg

/-- The expansion never leaves the index, whatever the ids of its fragments. -/
theorem known_expand (hstart : ∀ s ∈ start, s ∈ ix.fragments) : ∀ r ∈ expand ix start, r.fragment ∈ ix.fragments :=
  known_widen maxDepth 0 _ _ (known_foldl_reach 0 hstart fun _ h => absurd h List.not_mem_nil)

theorem table_records (ix : Index) (query : String) : Records ix (table (α := α) ix query) := by
  by_cases h : seeds ix query = []
  · rw [table_of_no_seeds h]
    exact .nil
  · rw [table_of_seeds h]
    exact Records.foldl _ (fun t r hr ht => ht.adjust (known_expand (seeds_known ix query) r hr) _) .nil

end Table

/-! ## 2. Exactness -/

/-- **The expansion is exact.** In an index without repeated ids, let it start from any fragments of the
index. Taken one at a time from a queue, the fragments come to an end with the same result; found are the
fragments within `maxDepth` steps along neighbours, each once, at its distance, in the order of distances.
So a query ranks exactly the fragments within `maxDepth` steps from its seeds, and nothing if it has none. -/
theorem expand_exact {α : Type} [Score α] (ix : Index) (hids : (ix.fragments.map (·.id)).Nodup)
    (start : List Fragment) (hstart : ∀ s ∈ start, s ∈ ix.fragments) :
    (∃ n, (Search.step (neighbours ix))^[n] ⟨start.foldl (reach 0) [], start.foldl (reach 0) []⟩ =
      ⟨[], expand ix start⟩) ∧
    (∀ g n, ⟨g, n⟩ ∈ expand ix start ↔ Distance (Neighbour ix) start g n ∧ n ≤ maxDepth) ∧
    ((expand ix start).map (·.fragment.id)).Nodup ∧
    (expand ix start).Pairwise (fun a b => a.depth ≤ b.depth) ∧
    ∀ query, ∃ ranked : ScoreTable α,
      (∀ limit, rank ix query limit = ranked.take limit.toNat) ∧
      ranked.ids.Nodup ∧
      (∀ g, g ∈ ranked.map (·.fragment) ↔ ∃ n ≤ maxDepth, Distance (Neighbour ix) (seeds ix query) g n) ∧
      (seeds ix query = [] → ranked = []) := by
  have hk := apart_of_nodup hids
  obtain ⟨_, l⟩ := level_expand hk hstart
  refine ⟨run_expand ix start, mem_expand_iff hk hstart, l.once, l.ordered, fun query => ?_⟩
  have hperm : (ScoreTable.sorted (table (α := α) ix query)).Perm (table ix query) := List.mergeSort_perm _ _
  refine ⟨ScoreTable.sorted (table ix query), fun _ => rfl, ?_, fun g => ?_, fun h => ?_⟩
  · exact (hperm.map _).nodup_iff.mpr (table_records ix query).once
  · rw [(hperm.map _).mem_iff]
    exact mem_table_iff hk query g
  · rw [table_of_no_seeds h] at hperm ⊢
    exact hperm.eq_nil

deriving instance DecidableEq for Fragment

deriving instance DecidableEq for Reached

/-- A method with nothing but its id and its dependencies. -/
def link (id : String) (dependencies : List String) : Fragment :=
  { id := id, kind := .method, name := some id, signature := none, content := none, filePath := "", startLine := 1,
    endLine := 1, package := none, documentation := none, dependencies := dependencies, embedding := none }

/-- Four methods, each of which depends on the next one. -/
def chain : Index := .ofFragments false [link "aaa" ["bbb"], link "bbb" ["ccc"], link "ccc" ["ddd"], link "ddd" []]

/-- In the chain the third method is two steps away from the first one, and the fourth is out of reach. -/
theorem expand_exact_chain :
    (chain.fragments.map (·.id)).Nodup ∧ (∀ s ∈ [link "aaa" ["bbb"]], s ∈ chain.fragments) ∧
    Distance (Neighbour chain) [link "aaa" ["bbb"]] (link "ccc" ["ddd"]) 2 ∧
    ¬ ∃ n ≤ maxDepth, Distance (Neighbour chain) [link "aaa" ["bbb"]] (link "ddd" []) n := by
  have hids : (chain.fragments.map (·.id)).Nodup := by decide
  have hstart : ∀ s ∈ [link "aaa" ["bbb"]], s ∈ chain.fragments := by decide
  have e : expand chain [link "aaa" ["bbb"]] =
      [⟨link "aaa" ["bbb"], 0⟩, ⟨link "bbb" ["ccc"], 1⟩, ⟨link "ccc" ["ddd"], 2⟩] := by decide +kernel
  obtain ⟨_, hmem, _⟩ := expand_exact (α := Float) chain hids _ hstart
  rw [e] at hmem
  refine ⟨hids, hstart, ((hmem (link "ccc" ["ddd"]) 2).mp (by decide)).1, ?_⟩
  rintro ⟨n, hn, hd⟩
  have hmem' := (hmem (link "ddd" []) n).mpr ⟨hd, hn⟩
  have hne : ∀ r ∈ [(⟨link "aaa" ["bbb"], 0⟩ : Reached), ⟨link "bbb" ["ccc"], 1⟩, ⟨link "ccc" ["ddd"], 2⟩],
      r.fragment ≠ link "ddd" [] := by decide
  exact hne _ hmem' rfl

end FragmentSearch.Proximity
