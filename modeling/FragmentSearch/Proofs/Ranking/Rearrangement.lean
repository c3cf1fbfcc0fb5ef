import FragmentSearch.Proofs.Index.Rearrangement
import FragmentSearch.Proofs.Ranking.BestFirst

/-!
# Rankings do not depend on how dependencies are listed

What the views of an index give of rearranged fragments, rearranged, goes through the expansion, the scores and the score
tables to the rankings (`expand_rearranged`, `Strategy.rank_rearranged`). Two lists of dependencies that hold the same
names become one list where they are written in order, each name once; and where the number of names counts, two
permutations become one list where they are written in order. So two sets of fragments that differ in such lists only
cannot be told apart: `retrieval_relisted`.
-/

namespace FragmentSearch

variable (ρ : Rearrangement) {resolves : Bool} {fs : List Fragment}

/-- Steps that go along with a change of their state, one after the other. -/
theorem foldl_map_of_step {σ τ β γ : Type} {step : σ → β → σ} {step' : τ → γ → τ} {F : σ → τ} {r : β → γ}
    (hstep : ∀ s x, step' (F s) (r x) = F (step s x)) (xs : List β) (s : σ) :
    (xs.map r).foldl step' (F s) = F (xs.foldl step s) := by
  rw [List.foldl_map]
  exact List.foldl_hom F hstep

/-! ## 1. The expansion -/

namespace Proximity

/-- What was reached, with the dependencies of the fragment written anew. -/
def Reached.rearranged (r : Reached) : Reached := { r with fragment := r.fragment.rearranged ρ }

theorem neighbours_rearranged (f : Fragment) :
    neighbours (.ofFragments resolves (fs.map (·.rearranged ρ))) (f.rearranged ρ) =
      (neighbours (.ofFragments resolves fs) f).map (·.rearranged ρ) := by
  unfold neighbours
  rw [Fragment.id_rearranged, Index.dependencies_rearranged, Index.dependents_rearranged, Index.siblings_rearranged,
    List.map_append, List.map_append, List.map_take]

theorem reach_rearranged (d : Nat) (found : List Reached) (f : Fragment) :
    reach d (found.map (·.rearranged ρ)) (f.rearranged ρ) = (reach d found f).map (·.rearranged ρ) := by
  have hany : (found.map (·.rearranged ρ)).any (·.fragment.id = (f.rearranged ρ).id) =
      found.any (·.fragment.id = f.id) := by
    rw [List.any_map]
    rfl
  unfold reach
  rw [hany, apply_ite (List.map _), List.map_append]
  rfl

theorem foldl_reach_rearranged (d : Nat) (cs : List Fragment) (found : List Reached) :
    (cs.map (·.rearranged ρ)).foldl (reach d) (found.map (·.rearranged ρ)) =
      (cs.foldl (reach d) found).map (·.rearranged ρ) :=
  foldl_map_of_step (F := List.map (·.rearranged ρ)) (reach_rearranged ρ d) cs found

theorem fragments_rearranged (rs : List Reached) :
    (rs.map (·.rearranged ρ)).map (·.fragment) = (rs.map (·.fragment)).map (·.rearranged ρ) := by
  rw [List.map_map, List.map_map]
  rfl

/-- Where neighbours are rearranged, what is reached is rearranged. -/
theorem widen_rearranged {next next' : Fragment → List Fragment}
    (hnext : ∀ f, next' (f.rearranged ρ) = (next f).map (·.rearranged ρ)) (steps : Nat) :
    ∀ (d : Nat) (frontier : List Fragment) (found : List Reached),
      widen next' steps d (frontier.map (·.rearranged ρ)) (found.map (·.rearranged ρ)) =
        (widen next steps d frontier found).map (·.rearranged ρ) := by
  induction steps with
  | zero => intro d frontier found; rfl
  | succ steps ih =>
      intro d frontier found
      have hcandidates : (frontier.map (·.rearranged ρ)).flatMap next' =
          (frontier.flatMap next).map (·.rearranged ρ) := by
        rw [List.flatMap_map, List.map_flatMap]
        exact List.flatMap_congr fun f _ => hnext f
      unfold widen
      rw [hcandidates, foldl_reach_rearranged]
      dsimp only
      -- the next frontier is what follows on those found before, and these are as many
      rw [List.length_map, ← List.map_drop, fragments_rearranged]
      exact ih _ _ _

/-- **The expansion of rearranged fragments** finds the same ones, in the same order and at the same depths. -/
theorem expand_rearranged (start : List Fragment) :
    expand (.ofFragments resolves (fs.map (·.rearranged ρ))) (start.map (·.rearranged ρ)) =
      (expand (.ofFragments resolves fs) start).map (·.rearranged ρ) := by
  have hstart : (start.map (·.rearranged ρ)).foldl (reach 0) [] = (start.foldl (reach 0) []).map (·.rearranged ρ) :=
    foldl_reach_rearranged ρ 0 start []
  unfold expand
  rw [hstart]
  dsimp only
  rw [fragments_rearranged]
  exact widen_rearranged ρ (neighbours_rearranged ρ) _ _ _ _

theorem seeds_rearranged (query : String) :
    seeds (.ofFragments resolves (fs.map (·.rearranged ρ))) query =
      (seeds (.ofFragments resolves fs) query).map (·.rearranged ρ) := by
  unfold seeds
  rw [Index.search_rearranged, List.map_take]

/-! ## 2. Scores -/

theorem connected_rearranged (a b : Fragment) : connected (a.rearranged ρ) (b.rearranged ρ) = connected a b := by
  have hcontains : ∀ f : Fragment, (f.rearranged ρ).dependencies.contains = f.dependencies.contains :=
    fun f => contains_congr fun _ => Fragment.mem_dependencies_rearranged
  unfold connected
  rw [hcontains, hcontains]
  rfl

theorem score_rearranged {α : Type} [Score α] (start : List Fragment) (f : Fragment) :
    score (α := α) (start.map (·.rearranged ρ)) (f.rearranged ρ) = score start f := by
  unfold score
  rw [List.any_map, List.foldl_map]
  simp only [connected_rearranged]
  rfl

end Proximity

/-! ## 3. Score tables -/

section Tables

variable {α : Type}

/-- An entry of a score table, with the dependencies of its fragment written anew. -/
def Scored.rearranged (e : Scored α) : Scored α := { e with fragment := e.fragment.rearranged ρ }

namespace ScoreTable

theorem adjust_rearranged (f : Fragment) (g : Option α → α) (t : ScoreTable α) :
    adjust (f.rearranged ρ) g (t.map (·.rearranged ρ)) = (adjust f g t).map (·.rearranged ρ) := by
  induction t with
  | nil => rfl
  | cons e t ih =>
      rw [List.map_cons]
      unfold adjust
      rw [ih, apply_ite (List.map _)]
      rfl

theorem best_rearranged [Score α] (limit : Int) (t : ScoreTable α) :
    best limit (t.map (·.rearranged ρ)) = (best limit t).map (·.rearranged ρ) := by
  unfold best sorted
  rw [List.map_take, List.map_mergeSort]
  exact fun _ _ _ _ => rfl

end ScoreTable

end Tables

/-! ## 4. Rankings -/

section Rankings

variable {α : Type} [Score α] (query : String) (limit : Int)

namespace Proximity

theorem table_rearranged :
    table (α := α) (.ofFragments resolves (fs.map (·.rearranged ρ))) query =
      (table (.ofFragments resolves fs) query).map (·.rearranged ρ) := by
  have hempty : ∀ start : List Fragment, (start.map (·.rearranged ρ)).isEmpty = start.isEmpty := fun _ => List.isEmpty_map
  have hput : ∀ (start : List Fragment) (t : ScoreTable α) (r : Reached),
      ScoreTable.put (r.fragment.rearranged ρ) (score (start.map (·.rearranged ρ)) (r.fragment.rearranged ρ))
          (t.map (·.rearranged ρ)) =
        (t.put r.fragment (score start r.fragment)).map (·.rearranged ρ) := by
    intro start t r
    rw [score_rearranged]
    exact ScoreTable.adjust_rearranged ρ _ _ t
  unfold table tableFrom
  rw [seeds_rearranged]
  dsimp only
  rw [hempty, expand_rearranged, apply_ite (List.map _)]
  exact congrArg (ite _ _) (foldl_map_of_step (F := fun t : ScoreTable α => t.map (·.rearranged ρ)) (hput _) _ [])

theorem rank_rearranged :
    rank (α := α) (.ofFragments resolves (fs.map (·.rearranged ρ))) query limit =
      (rank (.ofFragments resolves fs) query limit).map (·.rearranged ρ) := by
  unfold rank
  rw [table_rearranged, ScoreTable.best_rearranged]

end Proximity

namespace Keyword

variable (y : Yardstick α)

theorem enter_rearranged (terms : List String) (t : ScoreTable α) (f : Fragment) :
    enter y terms (t.map (·.rearranged ρ)) (f.rearranged ρ) =
      (enter y terms t f).map (List.map (·.rearranged ρ)) := by
  have hscore : scoreTerms y terms (f.rearranged ρ) = scoreTerms y terms f := rfl
  unfold enter
  rw [hscore]
  cases scoreTerms y terms f with
  | error e => rfl
  | ok s =>
      dsimp only
      rw [ScoreTable.put, ScoreTable.adjust_rearranged, ← apply_ite (List.map _)]
      rfl

theorem foldlM_enter_rearranged (terms : List String) (fs : List Fragment) : ∀ t : ScoreTable α,
    (fs.map (·.rearranged ρ)).foldlM (enter y terms) (t.map (·.rearranged ρ)) =
      (fs.foldlM (enter y terms) t).map (List.map (·.rearranged ρ)) := by
  induction fs with
  | nil => intro t; rfl
  | cons f fs ih =>
      intro t
      rw [List.map_cons, List.foldlM_cons, List.foldlM_cons, enter_rearranged]
      cases enter y terms t f with
      | error e => rfl
      | ok t' => exact ih t'

theorem rank_rearranged :
    rank y (.ofFragments resolves (fs.map (·.rearranged ρ))) query limit =
      (rank y (.ofFragments resolves fs) query limit).map (List.map (·.rearranged ρ)) := by
  have htable : table y (.ofFragments resolves (fs.map (·.rearranged ρ))) query =
      (table y (.ofFragments resolves fs) query).map (List.map (·.rearranged ρ)) := by
    unfold table
    rw [Index.fragments_ofFragments, Index.fragments_ofFragments]
    exact foldlM_enter_rearranged ρ y _ fs []
  unfold rank
  rw [htable]
  cases table y (.ofFragments resolves fs) query with
  | error e => rfl
  | ok t => exact congrArg Except.ok (ScoreTable.best_rearranged ρ limit t)

end Keyword

namespace Semantic

theorem rankReply_rearranged (lib : Library) (reply : Except ServiceFailure Json) :
    rankReply lib (.ofFragments resolves (fs.map (·.rearranged ρ))) reply limit =
      (rankReply lib (.ofFragments resolves fs) reply limit).map (·.rearranged ρ) := by
  have henter : ∀ (q : List Float) (t : ScoreTable Float) (f : Fragment),
      enter lib q (t.map (·.rearranged ρ)) (f.rearranged ρ) = (enter lib q t f).map (·.rearranged ρ) := by
    intro q t f
    have hvector : (f.rearranged ρ).embedding = f.embedding := rfl
    unfold enter
    rw [hvector]
    cases f.embedding with
    | none => rfl
    | some v =>
        dsimp only
        rw [ScoreTable.put, ScoreTable.adjust_rearranged, ← apply_ite (List.map _)]
        rfl
  have htable : ∀ q : List Float, rankVector lib (.ofFragments resolves (fs.map (·.rearranged ρ))) q limit =
      (rankVector lib (.ofFragments resolves fs) q limit).map (·.rearranged ρ) := by
    intro q
    unfold rankVector table
    rw [Index.fragments_ofFragments, Index.fragments_ofFragments, ← ScoreTable.best_rearranged]
    refine congrArg (ScoreTable.best limit) ?_
    exact foldl_map_of_step (F := fun t : ScoreTable Float => t.map (·.rearranged ρ)) (henter q) fs []
  unfold rankReply
  cases reply with
  | error e => rfl
  | ok v =>
      dsimp only
      cases queryVector? v with
      | none => rfl
      | some q => exact htable q

theorem rank_rearranged (o : Outside) (e : Embedder) (j : Journal) :
    rank o e (.ofFragments resolves (fs.map (·.rearranged ρ))) query limit j =
      ((rank o e (.ofFragments resolves fs) query limit j).1.map (·.rearranged ρ),
        (rank o e (.ofFragments resolves fs) query limit j).2) := by
  rw [rank_run, rank_run, rankReply_rearranged]
  split <;> rfl

end Semantic

namespace Hybrid

theorem fragmentsOf_rearranged {β : Type} (t : ScoreTable β) :
    fragmentsOf (t.map (·.rearranged ρ)) = (fragmentsOf t).map (·.rearranged ρ) := by
  unfold fragmentsOf
  rw [List.map_map, List.map_map]
  rfl

theorem addPositions_rearranged (weight : α) (ranking : List Fragment) (t : ScoreTable α) :
    addPositions weight (ranking.map (·.rearranged ρ)) (t.map (·.rearranged ρ)) =
      (addPositions weight ranking t).map (·.rearranged ρ) := by
  have hstep : ∀ (n : Nat) (t : ScoreTable α) (p : Fragment × Nat),
      addPlace n weight (t.map (·.rearranged ρ)) (p.1.rearranged ρ, p.2) = (addPlace n weight t p).map (·.rearranged ρ) :=
    fun n t p => ScoreTable.adjust_rearranged ρ p.1 _ t
  unfold addPositions
  rw [List.length_map, List.zipIdx_map]
  exact foldl_map_of_step (F := fun t : ScoreTable α => t.map (·.rearranged ρ)) (hstep _) _ t

theorem fuse_rearranged (weights : Table String α) (keyword proximity semantic : List Fragment) :
    fuse weights (keyword.map (·.rearranged ρ)) (proximity.map (·.rearranged ρ)) (semantic.map (·.rearranged ρ)) =
      (fuse weights keyword proximity semantic).map (·.rearranged ρ) := by
  have hkeyword := addPositions_rearranged ρ (weightOf "keyword" weights) keyword []
  unfold fuse
  rw [← addPositions_rearranged, ← addPositions_rearranged, ← hkeyword]
  rfl

/-- The boost reads how many dependencies there are, repeated ones counting again. -/
theorem boost_rearranged (hlen : ∀ names : List String, (ρ.write names).length = names.length) (y : Yardstick α)
    (f : Fragment) :
    boost y (.ofFragments resolves (fs.map (·.rearranged ρ))) query (f.rearranged ρ) =
      boost y (.ofFragments resolves fs) query f := by
  have hcount : (f.rearranged ρ).dependencies.length = f.dependencies.length := hlen f.dependencies
  unfold boost
  rw [Fragment.id_rearranged, Index.dependents_rearranged, List.length_map, hcount]
  rfl

theorem tableWith_rearranged (hlen : ∀ names : List String, (ρ.write names).length = names.length) (y : Yardstick α)
    (weights : Table String α) (keyword : ScoreTable α) (semantic : List Fragment) :
    tableWith y weights (.ofFragments resolves (fs.map (·.rearranged ρ))) query (keyword.map (·.rearranged ρ)) limit
        (semantic.map (·.rearranged ρ)) =
      (tableWith y weights (.ofFragments resolves fs) query keyword limit semantic).map (·.rearranged ρ) := by
  unfold tableWith raised
  rw [Proximity.rank_rearranged, fragmentsOf_rearranged, fragmentsOf_rearranged, fuse_rearranged, List.map_map,
    List.map_map]
  refine List.map_congr_left fun e _ => ?_
  show Scored.mk (e.fragment.rearranged ρ) (e.score * boost y _ query (e.fragment.rearranged ρ)) = _
  rw [boost_rearranged ρ query hlen]
  rfl

omit [Score α] in
theorem meant_rearranged (o : Outside) (h : Hybrid α) (j : Journal) :
    meant o h (.ofFragments resolves (fs.map (·.rearranged ρ))) query limit j =
      ((meant o h (.ofFragments resolves fs) query limit j).1.map (·.rearranged ρ),
        (meant o h (.ofFragments resolves fs) query limit j).2) := by
  unfold meant
  rw [Semantic.rank_rearranged]
  split <;> rfl

theorem rank_rearranged (hlen : ∀ names : List String, (ρ.write names).length = names.length) (y : Yardstick α)
    (o : Outside) (h : Hybrid α) (j : Journal) :
    h.rank y o (.ofFragments resolves (fs.map (·.rearranged ρ))) query limit j =
      ((h.rank y o (.ofFragments resolves fs) query limit j).1.map (List.map (·.rearranged ρ)),
        (h.rank y o (.ofFragments resolves fs) query limit j).2) := by
  have hrun : ∀ ix : Index, h.rank y o ix query limit j =
      ((h.table y o ix query limit j).1.map (ScoreTable.best limit), (h.table y o ix query limit j).2) := fun _ => rfl
  rw [hrun, hrun, table_run, table_run, Keyword.rank_rearranged, meant_rearranged]
  cases Keyword.rank y (.ofFragments resolves fs) query (limit * 2) with
  | error e => rfl
  | ok keyword =>
      dsimp only [Except.map]
      rw [fragmentsOf_rearranged, tableWith_rearranged ρ query _ hlen, ScoreTable.best_rearranged]

end Hybrid

/-- **Every ranking of rearranged fragments** gives the same ones with the same scores, and makes the same requests. The
hybrid ranking also counts dependencies, so for it their number must stay. -/
theorem Strategy.rank_rearranged (o : Outside) (s : Strategy) (j : Journal)
    (hs : (∀ h, s ≠ .hybrid h) ∨ ∀ names : List String, (ρ.write names).length = names.length) :
    s.rank o (.ofFragments resolves (fs.map (·.rearranged ρ))) query limit j =
      ((s.rank o (.ofFragments resolves fs) query limit j).1.map (List.map (·.rearranged ρ)),
        (s.rank o (.ofFragments resolves fs) query limit j).2) := by
  cases s with
  | keyword => exact congrArg (·, j) (Keyword.rank_rearranged ρ query limit (.of o.library))
  | proximity => exact congrArg (Except.ok ·, j) (Proximity.rank_rearranged ρ query limit)
  | semantic e =>
      exact congrArg (fun out : ScoreTable Float × Journal => (Except.ok out.1, out.2))
        (Semantic.rank_rearranged ρ query limit o e j)
  | hybrid h => exact Hybrid.rank_rearranged ρ query limit (hs.resolve_left fun hs => hs h rfl) (.of o.library) o h j

end Rankings

/-! ## 5. Two ways of listing dependencies -/

namespace Rearrangement

/-- The names in order. -/
def ordered : Rearrangement := ⟨Index.inOrder, Index.mem_inOrder⟩

/-- The names in order, each once. -/
def orderedOnce : Rearrangement := ⟨fun names => Index.inOrder (distinct names), Index.mem_inOrder.trans mem_distinct⟩

end Rearrangement

/-- The second fragment is the first one with its dependencies in another list; `same` says how the lists agree. -/
structure Relisted (same : List String → List String → Prop) (f f' : Fragment) : Prop where
  rest : f' = { f with dependencies := f'.dependencies }
  names : same f.dependencies f'.dependencies

/-- The lists hold the same names. -/
def SameNames (names names' : List String) : Prop := ∀ n, n ∈ names ↔ n ∈ names'

/-- What is seen of a ranking and the requests it made: the ids with their scores, in their order. -/
def outcome (run : Except RankingFault (ScoreTable Float) × Journal) :
    Except RankingFault (List (String × Float)) × Journal :=
  (run.1.map (List.map fun e => (e.fragment.id, e.score)), run.2)

section Relisting

variable {same : List String → List String → Prop} {fs' : List Fragment}

/-- Lists that a rearrangement makes one give one set of fragments. -/
theorem map_rearranged_eq (hwrite : ∀ names names', same names names' → ρ.write names = ρ.write names')
    (h : List.Forall₂ (Relisted same) fs fs') : fs.map (·.rearranged ρ) = fs'.map (·.rearranged ρ) := by
  induction h with
  | nil => rfl
  | @cons f f' fs fs' hf _ ih =>
      rw [List.map_cons, List.map_cons, ih]
      have hsame : f.rearranged ρ = f'.rearranged ρ := by
        unfold Fragment.rearranged
        rw [hwrite _ _ hf.names, hf.rest]
      rw [hsame]

theorem map_orderedOnce_eq (h : List.Forall₂ (Relisted SameNames) fs fs') :
    fs.map (·.rearranged .orderedOnce) = fs'.map (·.rearranged .orderedOnce) :=
  map_rearranged_eq .orderedOnce (fun _ _ hsame => Index.inOrder_distinct_congr hsame) h

theorem map_ordered_eq (h : List.Forall₂ (Relisted List.Perm) fs fs') :
    fs.map (·.rearranged .ordered) = fs'.map (·.rearranged .ordered) :=
  map_rearranged_eq .ordered (fun _ _ hperm => Index.inOrder_congr hperm) h

theorem outcome_rearranged (run : Except RankingFault (ScoreTable Float) × Journal) :
    outcome (run.1.map (List.map (·.rearranged ρ)), run.2) = outcome run := by
  obtain ⟨r, j⟩ := run
  cases r with
  | error e => rfl
  | ok t =>
      unfold outcome
      dsimp only [Except.map]
      rw [List.map_map]
      rfl

/-- Fragments that a rearrangement makes one set cannot be told apart by a ranking that goes along with it. -/
theorem outcome_rank_eq (h : fs.map (·.rearranged ρ) = fs'.map (·.rearranged ρ)) (o : Outside) (s : Strategy)
    (query : String) (limit : Int) (j : Journal)
    (hs : (∀ h, s ≠ .hybrid h) ∨ ∀ names : List String, (ρ.write names).length = names.length) :
    outcome (s.rank o (.ofFragments resolves fs) query limit j) =
      outcome (s.rank o (.ofFragments resolves fs') query limit j) := by
  have hseen : ∀ gs : List Fragment, outcome (s.rank o (.ofFragments resolves (gs.map (·.rearranged ρ))) query limit j) =
      outcome (s.rank o (.ofFragments resolves gs) query limit j) := by
    intro gs
    rw [s.rank_rearranged ρ query limit o j hs, outcome_rearranged]
  rw [← hseen fs, ← hseen fs', h]

/-- **Retrieval does not depend on how dependencies are listed.** Let two sets of fragments agree but for the lists of
dependencies, which hold the same names. Then every id depends on the same ids and is depended on by the same, in the same
order. Expansions from starts that agree in this way find the same ids at the same depths, in the same order. And each
ranking gives the same ids with the same scores, in the same order, and makes the same requests; for the hybrid one the
lists must be permutations, since it counts dependencies. -/
theorem retrieval_relisted (resolves : Bool) (fs fs' : List Fragment) (hfs : List.Forall₂ (Relisted SameNames) fs fs') :
    let ix := Index.ofFragments resolves fs
    let ix' := Index.ofFragments resolves fs'
    (∀ id, (ix.dependencies id).map (·.id) = (ix'.dependencies id).map (·.id) ∧
      (ix.dependents id).map (·.id) = (ix'.dependents id).map (·.id)) ∧
    (∀ start start', List.Forall₂ (Relisted SameNames) start start' →
      (Proximity.expand ix start).map (fun r => (r.fragment.id, r.depth)) =
        (Proximity.expand ix' start').map fun r => (r.fragment.id, r.depth)) ∧
    ∀ (o : Outside) (s : Strategy) (query : String) (limit : Int) (j : Journal),
      (∀ h, s ≠ .hybrid h) ∨ List.Forall₂ (Relisted List.Perm) fs fs' →
        outcome (s.rank o ix query limit j) = outcome (s.rank o ix' query limit j) := by
  intro ix ix'
  have hone := map_orderedOnce_eq hfs
  have hids : ∀ gs : List Fragment, gs.map (·.id) = (gs.map (·.rearranged .orderedOnce)).map (·.id) := by
    intro gs
    rw [List.map_map]
    rfl
  refine ⟨fun id => ⟨?_, ?_⟩, fun start start' hstart => ?_, fun o s query limit j hs => ?_⟩
  · rw [hids (ix.dependencies id), hids (ix'.dependencies id), ← Index.dependencies_rearranged,
      ← Index.dependencies_rearranged, hone]
  · rw [hids (ix.dependents id), hids (ix'.dependents id), ← Index.dependents_rearranged,
      ← Index.dependents_rearranged, hone]
  · have hreached : ∀ rs : List Proximity.Reached, rs.map (fun r => (r.fragment.id, r.depth)) =
        (rs.map (·.rearranged .orderedOnce)).map fun r => (r.fragment.id, r.depth) := by
      intro rs
      rw [List.map_map]
      rfl
    rw [hreached (Proximity.expand ix start), hreached (Proximity.expand ix' start'), ← Proximity.expand_rearranged,
      ← Proximity.expand_rearranged, hone, map_orderedOnce_eq hstart]
  · rcases hs with hs | hperm
    · exact outcome_rank_eq .orderedOnce hone o s query limit j (Or.inl hs)
    · refine outcome_rank_eq .ordered (map_ordered_eq hperm) o s query limit j (Or.inr fun names => ?_)
      exact (List.mergeSort_perm names _).length_eq

/-- A method names two others, in one order or in the other. It depends on both of them either way, and the expansion from
it and the hybrid ranking for its name are the same. -/
theorem retrieval_relisted_swapped :
    let run := Index.member "m.run" "run" ["load", "save"]
    let run' := Index.member "m.run" "run" ["save", "load"]
    let others := [Index.member "m.load" "load" [], Index.member "m.save" "save" []]
    let ix := Index.ofFragments true (run :: others)
    let ix' := Index.ofFragments true (run' :: others)
    let hybrid : Strategy := .hybrid ⟨.disabled, false, [("keyword", 0.5), ("dependency", 0.5)]⟩
    List.Forall₂ (Relisted SameNames) (run :: others) (run' :: others) ∧
    List.Forall₂ (Relisted List.Perm) (run :: others) (run' :: others) ∧
    (∀ b ∈ others, b ∈ ix.dependencies "m.run") ∧
    (ix.dependencies "m.run").map (·.id) = (ix'.dependencies "m.run").map (·.id) ∧
    (Proximity.expand ix [run]).map (fun r => (r.fragment.id, r.depth)) =
      (Proximity.expand ix' [run']).map (fun r => (r.fragment.id, r.depth)) ∧
    outcome (hybrid.rank silence ix "run" 5 {}) = outcome (hybrid.rank silence ix' "run" 5 {}) := by
  intro run run' others ix ix' hybrid
  have hrefl : ∀ {same : List String → List String → Prop}, (∀ names, same names names) → ∀ fs : List Fragment,
      List.Forall₂ (Relisted same) fs fs := by
    intro same h fs
    exact List.forall₂_same.mpr fun f _ => ⟨rfl, h f.dependencies⟩
  have hperm : List.Perm run.dependencies run'.dependencies := .swap "save" "load" []
  have hsame : List.Forall₂ (Relisted SameNames) (run :: others) (run' :: others) :=
    .cons ⟨rfl, fun _ => hperm.mem_iff⟩ (hrefl (fun _ _ => Iff.rfl) others)
  have hpermuted : List.Forall₂ (Relisted List.Perm) (run :: others) (run' :: others) :=
    .cons ⟨rfl, hperm⟩ (hrefl List.Perm.refl others)
  obtain ⟨hrelations, hexpand, hrank⟩ := retrieval_relisted true (run :: others) (run' :: others) hsame
  refine ⟨hsame, hpermuted, fun b hb => ?_, (hrelations "m.run").1, ?_,
    hrank silence hybrid "run" 5 {} (Or.inr hpermuted)⟩
  · have hids : ((run :: others).map (·.id)).Nodup := by decide
    refine (Index.mem_dependencies_iff hids (a := run) List.mem_cons_self).mpr ⟨List.mem_cons_of_mem _ hb, ?_⟩
    simp only [others, List.mem_cons, List.not_mem_nil, or_false] at hb
    rcases hb with rfl | rfl
    · exact Or.inr ⟨rfl, "load", by decide, rfl⟩
    · exact Or.inr ⟨rfl, "save", by decide, rfl⟩
  · exact hexpand [run] [run'] (.cons ⟨rfl, fun _ => hperm.mem_iff⟩ .nil)

end Relisting

end FragmentSearch
