import FragmentSearch.Proofs.Ranking.Semantic
import Mathlib.Algebra.Order.Field.Rat
import Mathlib.Tactic.NormNum

/-!
# A hybrid ranking without a vector of the query

An embedder that is not available, fails, or replies no vector of the query is as good as none: the hybrid ranking is
then that of the other two. Its default weights for these are half of those that it has without embeddings, so all
scores are halved and the order stays.

* `Mute` -- the embedder gives no vector of the query;
* `Scales g` -- the change `g` of scores goes through sums and products and keeps the order;
* `rescaled g t` -- the table `t` with all scores changed by `g`. Each step of a hybrid ranking takes rescaled weights
  and tables to rescaled tables (`addPositions_rescaled`, `raised_rescaled`, `best_rescaled`);
* `rank_without_meaning` -- the ranking is that without embeddings, and on the rational numbers half of it.
-/

namespace FragmentSearch

/-! ## 1. Scores on a scale -/

/-- Scores may be rational numbers. -/
instance instScoreRat : Score ℚ where
  decideLt := fun _ _ => inferInstance

/-- A change of scores that leaves zero alone, goes through sums, changes a product as it changes one of the factors,
and keeps the order. -/
structure Scales {α : Type} [Score α] (g : α → α) : Prop where
  zero : g 0.0 = 0.0
  add : ∀ a b, g (a + b) = g a + g b
  mul_left : ∀ a b, g (a * b) = g a * b
  mul_right : ∀ a b, g (a * b) = a * g b
  lt_iff : ∀ a b, g a < g b ↔ a < b

theorem scales_half : Scales fun s : ℚ => s / 2 where
  zero := by norm_num
  add a b := add_div a b 2
  mul_left a b := mul_div_right_comm a b 2
  mul_right a b := mul_div_assoc a b 2
  lt_iff a b := div_lt_div_iff_of_pos_right two_pos

/-- A table with all scores changed. -/
def rescaled {α : Type} (g : α → α) (t : ScoreTable α) : ScoreTable α := t.map fun e => { e with score := g e.score }

section Tables

variable {α : Type} {g : α → α}

theorem adjust_rescaled {u v : Option α → α} (h : ∀ s, u (s.map g) = g (v s)) (f : Fragment) (t : ScoreTable α) :
    (rescaled g t).adjust f u = rescaled g (t.adjust f v) := by
  induction t with
  | nil => exact congrArg (fun s => [(⟨f, s⟩ : Scored α)]) (h none)
  | cons e t ih =>
      show ScoreTable.adjust f u ({ e with score := g e.score } :: rescaled g t) = _
      rw [ScoreTable.adjust, ScoreTable.adjust]
      by_cases hid : e.fragment.id = f.id
      · rw [if_pos hid, if_pos hid]
        exact congrArg (fun s => (⟨e.fragment, s⟩ : Scored α) :: rescaled g t) (h (some e.score))
      · rw [if_neg hid, if_neg hid, ih]
        rfl

variable [Score α] (hg : Scales g)
include hg

theorem best_rescaled (limit : Int) (t : ScoreTable α) : (rescaled g t).best limit = rescaled g (t.best limit) := by
  unfold ScoreTable.best ScoreTable.sorted
  show _ = List.map _ (List.take _ _)
  rw [List.map_take, List.map_mergeSort]
  · rfl
  · intro a _ b _
    exact congrArg Bool.not (decide_eq_decide.mpr (hg.lt_iff a.score b.score).symm)

end Tables

/-! ## 2. Fusion on a scale -/

namespace Hybrid

section Fusion

variable {α : Type} [Score α] {g : α → α} (hg : Scales g)
include hg

theorem addPlace_rescaled (n : Nat) (weight : α) (t : ScoreTable α) (p : Fragment × Nat) :
    addPlace n (g weight) (rescaled g t) p = rescaled g (addPlace n weight t p) := by
  refine adjust_rescaled (fun s => ?_) p.1 t
  cases s with
  | none => rw [hg.add, hg.mul_right]; exact congrArg (· + _) hg.zero.symm
  | some s => rw [hg.add, hg.mul_right]; rfl

theorem addPositions_rescaled (weight : α) (ranking : List Fragment) (t : ScoreTable α) :
    addPositions (g weight) ranking (rescaled g t) = rescaled g (addPositions weight ranking t) := by
  unfold addPositions
  induction ranking.zipIdx generalizing t with
  | nil => rfl
  | cons p ps ih => rw [List.foldl_cons, List.foldl_cons, addPlace_rescaled hg, ih]

/-- What raises a score for a query is the same on both scales. -/
theorem raised_rescaled (y : Yardstick α) (ix : Index) (query : String) (t : ScoreTable α) :
    raised y ix query (rescaled g t) = rescaled g (raised y ix query t) := by
  unfold raised rescaled
  rw [List.map_map, List.map_map]
  refine List.map_congr_left fun e _ => ?_
  exact congrArg (Scored.mk e.fragment) (hg.mul_left _ _).symm

/-- **Without the ranking by meaning, rescaled weights give a rescaled table.** -/
theorem tableWith_rescaled {weights weights' : Table String α}
    (hkeyword : weightOf "keyword" weights' = g (weightOf "keyword" weights))
    (hdependency : weightOf "dependency" weights' = g (weightOf "dependency" weights)) (y : Yardstick α) (ix : Index)
    (query : String) (keyword : ScoreTable α) (candidates : Int) :
    tableWith y weights' ix query keyword candidates [] = rescaled g (tableWith y weights ix query keyword candidates []) := by
  unfold tableWith fuse
  rw [hkeyword, hdependency, ← raised_rescaled hg]
  refine congrArg (raised y ix query) ?_
  -- nothing is added for the meaning, and before the first ranking the table is empty
  show addPositions _ _ (addPositions _ _ (rescaled g [])) = rescaled g (addPositions _ _ (addPositions _ _ []))
  rw [addPositions_rescaled hg, addPositions_rescaled hg]

end Fusion

/-! ## 3. Without a vector of the query -/

section Mute

/-- The embedder cannot be asked, or replies no vector of the query. -/
def Mute (o : Outside) (e : Embedder) (query : String) (j : Journal) : Prop :=
  e.isAvailable = false ∨ ∀ v q, (e.ask o [query] j).1 = .ok v → ¬ Semantic.QueryVector v q

variable {o : Outside} {e : Embedder} {query : String} {j : Journal}

theorem rank_of_mute (h : Mute o e query j) (ix : Index) (limit : Int) : (Semantic.rank o e ix query limit j).1 = [] := by
  rw [Semantic.rank_run]
  split
  · next havailable =>
      refine Semantic.rankReply_of_none (h.resolve_left fun h' => ?_)
      rw [h'] at havailable
      cases havailable
  · rfl

variable {α : Type} [Score α]

/-- A hybrid ranking for which the ranking by meaning finds nothing. -/
theorem rank_of_nothing_meant (y : Yardstick α) (h : Hybrid α) {ix : Index} {limit : Int}
    (hnone : (meant o h ix query (limit * 2) j).1 = []) :
    (h.rank y o ix query limit j).1 = (Keyword.rank y ix query (limit * 2)).map fun keyword =>
      (tableWith y h.weights ix query keyword (limit * 2) []).best limit := by
  show ((h.table y o ix query limit j).1).map (ScoreTable.best limit) = _
  rw [table_run, hnone]
  cases Keyword.rank y ix query (limit * 2) <;> rfl

end Mute

/-- **Losing the vector of the query degrades gracefully.** If the embedder cannot be asked, fails, or replies no vector
of the query, a hybrid ranking gives the same fragments with the same scores, or the same fault, as one that has the same
weights and does not take the meaning into account. Each with its default weights, and on the rational numbers, the two
give the same fragments in the same order, and every score of the first is half of that of the second. -/
theorem rank_without_meaning (o : Outside) (e e' : Embedder) (ix : Index) (query : String) (limit : Int) (j j' : Journal)
    (h : Mute o e query j) :
    (∀ (α : Type) [Score α] (y : Yardstick α) (weights : Table String α),
      (Hybrid.rank y o ⟨e, true, weights⟩ ix query limit j).1 =
        (Hybrid.rank y o ⟨e', false, weights⟩ ix query limit j').1) ∧
    ∀ y : Yardstick ℚ,
      (Hybrid.rank y o ⟨e, true, resolveWeights true none⟩ ix query limit j).1 =
        ((Hybrid.rank y o ⟨e', false, resolveWeights false none⟩ ix query limit j').1).map (rescaled (· / 2)) := by
  refine ⟨fun α _ y weights => ?_, fun y => ?_⟩
  · rw [rank_of_nothing_meant y ⟨e, true, weights⟩ (rank_of_mute h ix (limit * 2)),
      rank_of_nothing_meant y ⟨e', false, weights⟩ rfl]
  · rw [rank_of_nothing_meant y ⟨e, true, _⟩ (rank_of_mute h ix (limit * 2)),
      rank_of_nothing_meant y ⟨e', false, _⟩ rfl]
    have hkeyword : weightOf "keyword" (resolveWeights true none) =
        weightOf "keyword" (resolveWeights false none : Table String ℚ) / 2 := by
      show (0.3 : ℚ) = 0.6 / 2
      norm_num
    have hdependency : weightOf "dependency" (resolveWeights true none) =
        weightOf "dependency" (resolveWeights false none : Table String ℚ) / 2 := by
      show (0.2 : ℚ) = 0.4 / 2
      norm_num
    cases Keyword.rank y ix query (limit * 2) with
    | error fault => rfl
    | ok keyword =>
        refine congrArg Except.ok ?_
        show ScoreTable.best limit (tableWith y (resolveWeights true none) ix query keyword _ []) = _
        rw [tableWith_rescaled scales_half hkeyword hdependency, best_rescaled scales_half]

/-- A single method, found by its name in both rankings. The reply for the query holds an empty vector. -/
theorem rank_without_meaning_single :
    let ix := Index.ofFragments false [Proximity.link "aaa" []]
    let e : Embedder := .custom "mine" true fun _ _ => .ok (.list [.list []])
    let y : Yardstick ℚ := ⟨fun _ _ => 0, fun _ => 0⟩
    Mute silence e "aaa" {} ∧
    ((Hybrid.rank y silence ⟨.disabled, false, resolveWeights false none⟩ ix "aaa" 1 {}).1.map
      (·.map fun s => (s.fragment.id, s.score))).toOption = some [("aaa", 1)] ∧
    ((Hybrid.rank y silence ⟨e, true, resolveWeights true none⟩ ix "aaa" 1 {}).1.map
      (·.map fun s => (s.fragment.id, s.score))).toOption = some [("aaa", 1 / 2)] := by
  intro ix e y
  have hmute : Mute silence e "aaa" {} := by
    refine Or.inr fun v q hv hq => ?_
    cases hv
    obtain ⟨_, items, hfirst, hitems, hne, -⟩ := hq
    cases hfirst
    cases hitems
    exact hne rfl
  have hwhole : ((Hybrid.rank y silence ⟨.disabled, false, resolveWeights false none⟩ ix "aaa" 1 {}).1.map
      (·.map fun s => (s.fragment.id, s.score))).toOption = some [("aaa", 1)] := by decide +kernel
  refine ⟨hmute, hwhole, ?_⟩
  rw [(rank_without_meaning silence e .disabled ix "aaa" 1 {} {} hmute).2 y]
  cases hrank : (Hybrid.rank y silence ⟨.disabled, false, resolveWeights false none⟩ ix "aaa" 1 {}).1 with
  | error fault =>
      rw [hrank] at hwhole
      cases hwhole
  | ok t =>
      rw [hrank] at hwhole
      have ht : t.map (fun s => (s.fragment.id, s.score)) = [("aaa", 1)] := Option.some.inj hwhole
      show some ((rescaled (· / 2) t).map fun s => (s.fragment.id, s.score)) = _
      have hmap : (rescaled (· / 2) t).map (fun s => (s.fragment.id, s.score)) =
          (t.map fun s => (s.fragment.id, s.score)).map fun p => (p.1, p.2 / 2) := by
        rw [rescaled, List.map_map, List.map_map]
        rfl
      rw [hmap, ht]
      rfl

end Hybrid

end FragmentSearch
