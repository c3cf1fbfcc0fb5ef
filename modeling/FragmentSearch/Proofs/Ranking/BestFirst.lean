import FragmentSearch.Proofs.Ranking.Expansion
import FragmentSearch.Ranking.Strategy

/-!
# The best first

The four rankings fill a score table, each in its own way, and take the best part of it.

* `Strategy.table_records` -- the table of a ranking holds fragments of the index, each id once, and fails only
  at a fragment without a name;
* `Strategy.rank_eq` -- a ranking is the best part of its table, and fails where the table fails;
* `rank_best_first` -- so a ranking gives the first entries of its table, arranged by score.
-/

namespace FragmentSearch

/-! ## 1. The tables of the rankings -/

namespace Keyword

variable {α : Type} [Score α] {y : Yardstick α} {terms : List String}

theorem enter_eq (t : ScoreTable α) (f : Fragment) :
    (∃ e, enter y terms t f = .error e ∧ f.name = none) ∨ enter y terms t f = .ok t ∨
      ∃ s, enter y terms t f = .ok (t.put f s) := by
  unfold enter scoreTerms
  cases h : f.name with
  | none => exact Or.inl ⟨_, rfl, rfl⟩
  | some name =>
      by_cases hs : (0.0 : α) < termsScore y terms name f
      · exact Or.inr (Or.inr ⟨_, congrArg Except.ok (if_pos hs)⟩)
      · exact Or.inr (Or.inl (congrArg Except.ok (if_neg hs)))

/-- The table of some fragments: it fails at a fragment without a name, or it is a table of records. -/
theorem foldlM_enter {ix : Index} (fs : List Fragment) (hfs : ∀ f ∈ fs, f ∈ ix.fragments) :
    ∀ t : ScoreTable α, Records ix t →
      (∃ e, fs.foldlM (enter y terms) t = .error e ∧ ∃ f ∈ fs, f.name = none) ∨
        ∃ t', fs.foldlM (enter y terms) t = .ok t' ∧ Records ix t' := by
  induction fs with
  | nil => intro t h; exact Or.inr ⟨t, rfl, h⟩
  | cons f fs ih =>
      intro t h
      have hfs' : ∀ g ∈ fs, g ∈ ix.fragments := fun g hg => hfs g (List.mem_cons_of_mem _ hg)
      have hrest : ∀ t', enter y terms t f = .ok t' → Records ix t' →
          (∃ e, (f :: fs).foldlM (enter y terms) t = .error e ∧ ∃ g ∈ f :: fs, g.name = none) ∨
            ∃ t'', (f :: fs).foldlM (enter y terms) t = .ok t'' ∧ Records ix t'' := by
        intro t' e h'
        have e' : (f :: fs).foldlM (enter y terms) t = fs.foldlM (enter y terms) t' := by
          rw [List.foldlM_cons, e]
          rfl
        rw [e']
        refine (ih hfs' t' h').imp_left fun ⟨e, he, g, hg, hn⟩ => ⟨e, he, g, List.mem_cons_of_mem _ hg, hn⟩
      obtain ⟨e, he, hn⟩ | he | ⟨s, he⟩ : (∃ e, enter y terms t f = .error e ∧ f.name = none) ∨
          enter y terms t f = .ok t ∨ ∃ s, enter y terms t f = .ok (t.put f s) := enter_eq t f
      · refine Or.inl ⟨e, ?_, f, List.mem_cons_self, hn⟩
        rw [List.foldlM_cons, he]
        rfl
      · exact hrest t he h
      · exact hrest _ he (h.adjust (hfs f List.mem_cons_self) _)

theorem table_records (y : Yardstick α) (ix : Index) (query : String) :
    (∃ e, table y ix query = .error e ∧ ∃ f ∈ ix.fragments, f.name = none) ∨
      ∃ t, table y ix query = .ok t ∧ Records ix t :=
  foldlM_enter ix.fragments (fun _ h => h) [] .nil

end Keyword

namespace Semantic

/-- The score table of a reply of the embedder; empty if the reply gives no vector of the query. -/
def replyTable (lib : Library) (ix : Index) (reply : Except ServiceFailure Json) : ScoreTable Float :=
  match reply with
  | .error _ => []
  | .ok v =>
    match queryVector? v with
    | some q => table lib ix q
    | none => []

theorem rankReply_eq (lib : Library) (ix : Index) (reply : Except ServiceFailure Json) (limit : Int) :
    rankReply lib ix reply limit = (replyTable lib ix reply).best limit := by
  unfold rankReply replyTable
  cases reply with
  | error e => exact (ScoreTable.best_nil limit).symm
  | ok v =>
      show (match queryVector? v with | some q => _ | none => _) =
        ScoreTable.best limit (match queryVector? v with | some q => _ | none => _)
      cases queryVector? v with
      | some q => rfl
      | none => exact (ScoreTable.best_nil limit).symm

/-- The score table of a query; an embedder that is not available is not asked. -/
def askedTable (o : Outside) (e : Embedder) (ix : Index) (query : String) : Session (ScoreTable Float) := do
  if e.isAvailable then return replyTable o.library ix (← e.ask o [query])
  else return []

theorem askedTable_run (o : Outside) (e : Embedder) (ix : Index) (query : String) (j : Journal) :
    askedTable o e ix query j =
      if e.isAvailable then (replyTable o.library ix (e.ask o [query] j).1, (e.ask o [query] j).2) else ([], j) := by
  unfold askedTable
  split <;> rfl

theorem rank_run (o : Outside) (e : Embedder) (ix : Index) (query : String) (limit : Int) (j : Journal) :
    rank o e ix query limit j =
      if e.isAvailable then (rankReply o.library ix (e.ask o [query] j).1 limit, (e.ask o [query] j).2) else ([], j) := by
  unfold rank
  split <;> rfl

theorem table_records (lib : Library) (ix : Index) (q : List Float) : Records ix (table lib ix q) := by
  refine Records.foldl ix.fragments (fun t f hf ht => ?_) .nil
  unfold enter
  split
  · split
    · exact ht.adjust hf _
    · exact ht
  · exact ht

theorem replyTable_records (lib : Library) (ix : Index) (reply : Except ServiceFailure Json) :
    Records ix (replyTable lib ix reply) := by
  unfold replyTable
  split
  · exact .nil
  · split
    · exact table_records lib ix _
    · exact .nil

end Semantic

namespace Hybrid

variable {α : Type} [Score α] {ix : Index}

theorem addPositions_records {weight : α} {ranking : List Fragment} {t : ScoreTable α}
    (hr : ∀ f ∈ ranking, f ∈ ix.fragments) (h : Records ix t) : Records ix (addPositions weight ranking t) := by
  refine Records.foldl _ (fun t p hp ht => ht.adjust (hr p.1 ?_) _) h
  exact List.fst_mem_of_mem_zipIdx hp

theorem raised_records {y : Yardstick α} {query : String} {t : ScoreTable α} (h : Records ix t) :
    Records ix (raised y ix query t) := by
  have e : (raised y ix query t).ids = t.ids := by
    unfold raised ScoreTable.ids
    rw [List.map_map]
    rfl
  refine ⟨e ▸ h.once, fun e he => ?_⟩
  obtain ⟨e', he', rfl⟩ := List.mem_map.mp he
  exact h.known e' he'

theorem known_fragmentsOf {β : Type} {t : ScoreTable β} (h : Records ix t) : ∀ f ∈ fragmentsOf t, f ∈ ix.fragments := by
  intro f hf
  obtain ⟨e, he, rfl⟩ := List.mem_map.mp hf
  exact h.known e he

theorem tableWith_records {y : Yardstick α} {weights : Table String α} {query : String} {keyword : ScoreTable α}
    {candidates : Int} {semantic : List Fragment} (hk : Records ix keyword)
    (hs : ∀ f ∈ semantic, f ∈ ix.fragments) :
    Records ix (tableWith y weights ix query keyword candidates semantic) := by
  refine raised_records (addPositions_records hs (addPositions_records ?_ (addPositions_records ?_ .nil)))
  · exact known_fragmentsOf ((Proximity.table_records ix query).best candidates)
  · exact known_fragmentsOf hk

/-- What the ranking by meaning finds for a hybrid ranking, and the journal afterwards. -/
def meant (o : Outside) (h : Hybrid α) (ix : Index) (query : String) (limit : Int) (j : Journal) :
    ScoreTable Float × Journal :=
  if h.usesEmbeddings then Semantic.rank o h.embedder ix query limit j else ([], j)

/-- Without names there is no table, and the embedder is not asked; otherwise the three rankings are fused. -/
theorem table_run (y : Yardstick α) (o : Outside) (h : Hybrid α) (ix : Index) (query : String) (limit : Int)
    (j : Journal) :
    h.table y o ix query limit j =
      match Keyword.rank y ix query (limit * 2) with
      | .error e => (.error e, j)
      | .ok keyword =>
        (.ok (tableWith y h.weights ix query keyword (limit * 2) (fragmentsOf (meant o h ix query (limit * 2) j).1)),
          (meant o h ix query (limit * 2) j).2) := by
  unfold table meant
  cases Keyword.rank y ix query (limit * 2) with
  | error e => rfl
  | ok keyword =>
      cases hu : h.usesEmbeddings with
      | true => rfl
      | false => rfl

omit [Score α] in
theorem meant_records (o : Outside) (h : Hybrid α) (ix : Index) (query : String) (limit : Int) (j : Journal) :
    Records ix (meant o h ix query limit j).1 := by
  unfold meant
  split
  · rw [Semantic.rank_run]
    split
    · rw [Semantic.rankReply_eq]
      exact (Semantic.replyTable_records o.library ix _).best limit
    · exact .nil
  · exact .nil

end Hybrid

/-! ## 2. The four rankings -/

namespace Strategy

/-- The score table of a query, from which a ranking takes the best part. -/
def table (o : Outside) (s : Strategy) (ix : Index) (query : String) (limit : Int) :
    Session (Except RankingFault (ScoreTable Float)) :=
  match s with
  | .keyword => pure (Keyword.table (.of o.library) ix query)
  | .proximity => pure (.ok (Proximity.table ix query))
  | .semantic e => do return .ok (← Semantic.askedTable o e ix query)
  | .hybrid h => h.table (.of o.library) o ix query limit

variable (o : Outside) (s : Strategy) (ix : Index) (query : String) (limit : Int) (j : Journal)

/-- **A ranking is the best part of its table.** -/
theorem rank_eq :
    s.rank o ix query limit j =
      (((s.table o ix query limit j).1).map (ScoreTable.best limit), (s.table o ix query limit j).2) := by
  cases s with
  | keyword => rfl
  | proximity => rfl
  | hybrid h => rfl
  | semantic e =>
      have h : Semantic.rank o e ix query limit j =
          ((Semantic.askedTable o e ix query j).1.best limit, (Semantic.askedTable o e ix query j).2) := by
        rw [Semantic.rank_run, Semantic.askedTable_run]
        split
        · rw [Semantic.rankReply_eq]
        · rw [ScoreTable.best_nil]
      show (Except.ok (Semantic.rank o e ix query limit j).1, (Semantic.rank o e ix query limit j).2) = _
      rw [h]
      rfl

/-- The table of a ranking fails at a fragment without a name only, and is otherwise one of records. -/
theorem table_records :
    (∃ e, (s.table o ix query limit j).1 = .error e ∧ ∃ f ∈ ix.fragments, f.name = none) ∨
      ∃ t, (s.table o ix query limit j).1 = .ok t ∧ Records ix t := by
  cases s with
  | keyword => exact Keyword.table_records (.of o.library) ix query
  | proximity => exact Or.inr ⟨_, rfl, Proximity.table_records ix query⟩
  | semantic e =>
      refine Or.inr ⟨(Semantic.askedTable o e ix query j).1, rfl, ?_⟩
      rw [Semantic.askedTable_run]
      split
      · exact Semantic.replyTable_records o.library ix _
      · exact .nil
  | hybrid h =>
      have e : (Strategy.hybrid h).table o ix query limit j = h.table (.of o.library) o ix query limit j := rfl
      rw [e, Hybrid.table_run]
      have hk : Keyword.rank (.of o.library) ix query (limit * 2) =
          (Keyword.table (.of o.library) ix query).map (ScoreTable.best (limit * 2)) := rfl
      rw [hk]
      rcases Keyword.table_records (.of o.library) ix query with ⟨e, he, hn⟩ | ⟨t, ht, hr⟩
      · rw [he]
        exact Or.inl ⟨e, rfl, hn⟩
      · rw [ht]
        refine Or.inr ⟨_, rfl, Hybrid.tableWith_records (hr.best _) ?_⟩
        exact Hybrid.known_fragmentsOf (Hybrid.meant_records o h ix query _ j)

/-- The tables of the three base rankings do not depend on the limit. -/
theorem table_limit (hs : ∀ h, s ≠ .hybrid h) (m n : Int) : s.table o ix query m = s.table o ix query n := by
  cases s with
  | keyword => rfl
  | proximity => rfl
  | semantic e => rfl
  | hybrid h => exact absurd rfl (hs h)

end Strategy

/-! ## 3. The best of a table -/

/-- **Every ranking gives the best of its table first.** It fails exactly as its table does, which takes a
fragment without a name. If all scores of the table are numbers, the table has one arrangement by scores that
do not increase, equal ones in order of entry, and the ranking gives its first entries, `limit` of them or
none if the limit is negative. Every fragment given is one of the index, and no id comes twice. Of a base
ranking, a smaller limit gives the beginning of what a greater one gives. -/
theorem rank_best_first (o : Outside) (s : Strategy) (ix : Index) (query : String) (limit : Int) (j : Journal) :
    (∀ e, (s.table o ix query limit j).1 = .error e →
      (s.rank o ix query limit j).1 = .error e ∧ ∃ f ∈ ix.fragments, f.name = none) ∧
    (∀ t, (s.table o ix query limit j).1 = .ok t → t.HasNumbers →
      ∃ r, t.Arranged r ∧ (∀ r', t.Arranged r' → r' = r) ∧
        (s.rank o ix query limit j).1 = .ok (r.take limit.toNat)) ∧
    (∀ r, (s.rank o ix query limit j).1 = .ok r →
      (∀ e ∈ r, e.fragment ∈ ix.fragments) ∧ (r.map (·.fragment.id)).Nodup) ∧
    ((∀ h, s ≠ .hybrid h) → ∀ m ≤ limit,
      (s.rank o ix query m j).1 = (s.rank o ix query limit j).1.map (·.take m.toNat)) := by
  have hrank := s.rank_eq o ix query limit j
  refine ⟨fun e he => ?_, fun t ht hnum => ?_, fun r hr => ?_, fun hs m hm => ?_⟩
  · rw [hrank, he]
    refine ⟨rfl, ?_⟩
    rcases s.table_records o ix query limit j with ⟨_, _, hn⟩ | ⟨t, ht, _⟩
    · exact hn
    · rw [he] at ht
      cases ht
  · rcases s.table_records o ix query limit j with ⟨e, he, _⟩ | ⟨t', ht', hrec⟩
    · rw [ht] at he
      cases he
    · obtain rfl : t = t' := Except.ok.inj (ht.symm.trans ht')
      have hn : t.Nodup := hrec.once.of_map _
      have harr := ScoreTable.arranged_sorted hnum hn
      refine ⟨t.sorted, harr, fun r' h' => h'.unique hnum hn harr, ?_⟩
      rw [hrank, ht]
      rfl
  · rw [hrank] at hr
    rcases s.table_records o ix query limit j with ⟨e, he, _⟩ | ⟨t, ht, hrec⟩
    · rw [he] at hr
      cases hr
    · rw [ht] at hr
      obtain rfl : t.best limit = r := Except.ok.inj hr
      exact ⟨(hrec.best limit).known, (hrec.best limit).once⟩
  · rw [hrank, s.rank_eq o ix query m j, s.table_limit o ix query hs m limit]
    cases (s.table o ix query limit j).1 with
    | error e => rfl
    | ok t => exact congrArg Except.ok (ScoreTable.best_take hm t)

/-- Nobody answers. -/
def silence : Outside := .scripted none fun _ => .text ""

/-- For the name of its first method, the table of the chain has three entries. The two best are the first two
of the arranged table, they are methods of the chain, and the best one is the first of them. -/
theorem rank_best_first_chain :
    (Proximity.table (α := Float) Proximity.chain "aaa").length = 3 ∧
    (Strategy.proximity.table silence Proximity.chain "aaa" 2 {}).1 = .ok (Proximity.table Proximity.chain "aaa") ∧
    (Proximity.table Proximity.chain "aaa").HasNumbers ∧
    (∃ r, (Proximity.table Proximity.chain "aaa").Arranged r ∧
      (Strategy.proximity.rank silence Proximity.chain "aaa" 2 {}).1 = .ok (r.take 2) ∧
      ∀ e ∈ r.take 2, e.fragment ∈ Proximity.chain.fragments) ∧
    (Strategy.proximity.rank silence Proximity.chain "aaa" 1 {}).1 =
      (Strategy.proximity.rank silence Proximity.chain "aaa" 2 {}).1.map (·.take 1) := by
  have hnum : (Proximity.table Proximity.chain "aaa").HasNumbers := by
    unfold ScoreTable.HasNumbers
    decide +kernel
  obtain ⟨_, harr, hrec, hbase⟩ := rank_best_first silence .proximity Proximity.chain "aaa" 2 {}
  obtain ⟨r, hr, _, e⟩ := harr _ rfl hnum
  exact ⟨by decide +kernel, rfl, hnum, ⟨r, hr, e, (hrec _ e).1⟩, hbase (fun _ h => nomatch h) 1 (by decide)⟩

end FragmentSearch
