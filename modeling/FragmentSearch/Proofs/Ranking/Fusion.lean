import FragmentSearch.Proofs.Ranking.BestFirst

/-!
# Fusion, entry by entry

The hybrid ranking goes three times over one table and changes it in place. Here its result is written down
entry by entry:

* `addShare w r id s` -- the score `s` with what the ranking `r` of weight `w` gives the id for its place;
* `merged k d e` -- the fragments in their order in the fused table;
* `foldl_addPlace` -- one pass adds the shares of a ranking to all entries, and enters what is new at the end;
* `addPositions_map` -- so a table in which the fragments have the scores of their ids is extended to another;
* `fuse_eq` -- three times extended, the fused table is the list of merged fragments, each with its shares of
  the three rankings, added in their order to zero;
* `fuse?_eq` -- where a place is divided by a length, the length is not zero;
* `table_is_reference` -- the table of a hybrid ranking is that of the definition, `reference`.
-/

namespace FragmentSearch.Hybrid

variable {α : Type} [Score α]

/-! ## 1. Entries by themselves -/

/-- The score `s` of an id with its share of the weight of a ranking of `n` fragments, in which the members of
`ranking` stand from place `k` on. -/
def addShareFrom (n : Nat) (weight : α) (k : Nat) (ranking : List Fragment) (id : String) (s : α) : α :=
  match ranking.findIdx? (·.id = id) with
  | some i => s + (1.0 - ((i + k : Nat) : α) / (n : α)) * weight
  | none => s

/-- The score `s` of an id with its share of the weight of a ranking: at place `i` of `n`, the part
`1 - i / n` of the weight; none if the id is not in the ranking. -/
def addShare (weight : α) (ranking : List Fragment) (id : String) (s : α) : α :=
  match ranking.findIdx? (·.id = id) with
  | some i => s + (1.0 - (i : α) / (ranking.length : α)) * weight
  | none => s

/-- The ids of a ranking. -/
def idsOf (ranking : List Fragment) : List String := ranking.map (·.id)

/-- All fragments of three rankings: those of the first, then those that the second adds, then those that
neither of them has. -/
def merged (k d e : List Fragment) : List Fragment :=
  k ++ d.filter (·.id ∉ idsOf k) ++ e.filter fun f => f.id ∉ idsOf k ∧ f.id ∉ idsOf d

/-- The score of an id in the fusion of three rankings. -/
def fusedScore (weights : Table String α) (k d e : List Fragment) (id : String) : α :=
  addShare (weightOf "embedding" weights) e id
    (addShare (weightOf "dependency" weights) d id (addShare (weightOf "keyword" weights) k id 0.0))

/-! ## 2. One pass -/

section Pass

variable {n k : Nat} {weight s : α} {id : String}

theorem addShareFrom_cons (f : Fragment) (ranking : List Fragment) :
    addShareFrom n weight k (f :: ranking) id s =
      if f.id = id then s + (1.0 - (k : α) / (n : α)) * weight
      else addShareFrom n weight (k + 1) ranking id s := by
  unfold addShareFrom
  rw [List.findIdx?_cons]
  by_cases h : f.id = id
  · rw [if_pos (decide_eq_true h), if_pos h]
    show s + (1.0 - ((0 + k : Nat) : α) / (n : α)) * weight = _
    rw [Nat.zero_add]
  · rw [if_neg (by rw [decide_eq_false h]; exact Bool.false_ne_true), if_neg h]
    cases List.findIdx? (fun f => decide (f.id = id)) ranking with
    | none => rfl
    | some i =>
        show s + (1.0 - ((i + 1 + k : Nat) : α) / (n : α)) * weight =
          s + (1.0 - ((i + (k + 1) : Nat) : α) / (n : α)) * weight
        rw [show i + 1 + k = i + (k + 1) by omega]

theorem addShareFrom_of_not_mem {ranking : List Fragment} (h : id ∉ idsOf ranking) :
    addShareFrom n weight k ranking id s = s := by
  induction ranking generalizing k with
  | nil => rfl
  | cons f ranking ih =>
      have hne : ¬ f.id = id := fun e => h (List.mem_cons.mpr (Or.inl e.symm))
      rw [addShareFrom_cons, if_neg hne]
      exact ih fun h' => h (List.mem_cons_of_mem _ h')

theorem addShare_eq (weight : α) (ranking : List Fragment) (id : String) (s : α) :
    addShare weight ranking id s = addShareFrom ranking.length weight 0 ranking id s := rfl

theorem addShare_of_not_mem {ranking : List Fragment} (h : id ∉ idsOf ranking) :
    addShare weight ranking id s = s := by
  rw [addShare_eq, addShareFrom_of_not_mem h]

/-- The entries of a table with the shares of a ranking. -/
def withShares (n : Nat) (weight : α) (k : Nat) (ranking : List Fragment) (t : ScoreTable α) : ScoreTable α :=
  t.map fun e => ⟨e.fragment, addShareFrom n weight k ranking e.fragment.id e.score⟩

/-- The entries that a ranking adds to a table. -/
def newShares (n : Nat) (weight : α) (k : Nat) (ranking : List Fragment) (t : ScoreTable α) : ScoreTable α :=
  (ranking.filter (·.id ∉ t.ids)).map fun f => ⟨f, addShareFrom n weight k ranking f.id 0.0⟩

/-- Adding the share of the first member first. -/
theorem addPlace_known {t : ScoreTable α} {f : Fragment} {ranking : List Fragment} (ht : t.ids.Nodup)
    (hf : f.id ∉ idsOf ranking) (hmem : f.id ∈ t.ids) :
    withShares n weight (k + 1) ranking (addPlace n weight t (f, k)) = withShares n weight k (f :: ranking) t ∧
      (addPlace n weight t (f, k)).ids = t.ids := by
  unfold addPlace withShares
  rw [ScoreTable.ids_adjust, if_pos hmem, ScoreTable.adjust_of_mem _ ht hmem, List.map_map]
  refine ⟨List.map_congr_left fun e _ => ?_, rfl⟩
  rw [Function.comp_apply, addShareFrom_cons]
  by_cases h : e.fragment.id = f.id
  · rw [if_pos h, if_pos h.symm]
    show (⟨e.fragment, addShareFrom n weight (k + 1) ranking e.fragment.id _⟩ : Scored α) = _
    rw [addShareFrom_of_not_mem (h ▸ hf)]
    rfl
  · rw [if_neg h, if_neg fun h' => h h'.symm]

theorem addPlace_new {t : ScoreTable α} {f : Fragment} {ranking : List Fragment} (hf : f.id ∉ idsOf ranking)
    (hmem : f.id ∉ t.ids) :
    withShares n weight (k + 1) ranking (addPlace n weight t (f, k)) =
      withShares n weight k (f :: ranking) t ++ [⟨f, addShareFrom n weight k (f :: ranking) f.id 0.0⟩] ∧
      (addPlace n weight t (f, k)).ids = t.ids ++ [f.id] := by
  unfold addPlace withShares
  rw [ScoreTable.ids_adjust, if_neg hmem, ScoreTable.adjust_of_not_mem _ hmem, List.map_append]
  refine ⟨?_, rfl⟩
  congr 1
  · refine List.map_congr_left fun e he => ?_
    have hne : ¬ f.id = e.fragment.id := fun h => hmem (h ▸ List.mem_map_of_mem he)
    rw [addShareFrom_cons, if_neg hne]
  · rw [addShareFrom_cons, if_pos rfl]
    show [(⟨f, addShareFrom n weight (k + 1) ranking f.id _⟩ : Scored α)] = _
    rw [addShareFrom_of_not_mem hf]
    rfl

/-- **One pass over a ranking**: all entries get their shares, and what is new is entered at the end. -/
theorem foldl_addPlace (ranking : List Fragment) : ∀ (k : Nat) (t : ScoreTable α), (idsOf ranking).Nodup →
    t.ids.Nodup →
    (ranking.zipIdx k).foldl (addPlace n weight) t =
      withShares n weight k ranking t ++ newShares n weight k ranking t := by
  induction ranking with
  | nil =>
      intro k t _ _
      have e : withShares n weight k [] t = t := List.map_id t
      rw [e]
      exact (List.append_nil t).symm
  | cons f ranking ih =>
      intro k t hr ht
      obtain ⟨hf, hr'⟩ := List.nodup_cons.mp hr
      have hids : (addPlace n weight t (f, k)).ids.Nodup := ScoreTable.nodup_adjust ht
      -- the shares of the members behind `f` are the same with `f` and without it
      have hrest : ∀ g ∈ ranking,
          addShareFrom n weight k (f :: ranking) g.id (0.0 : α) = addShareFrom n weight (k + 1) ranking g.id 0.0 := by
        intro g hg
        have hne : ¬ f.id = g.id := fun h => hf (List.mem_map.mpr ⟨g, hg, h.symm⟩)
        rw [addShareFrom_cons, if_neg hne]
      rw [List.zipIdx_cons, List.foldl_cons, ih (k + 1) _ hr' hids]
      by_cases hmem : f.id ∈ t.ids
      · obtain ⟨e, hids'⟩ : withShares n weight (k + 1) ranking (addPlace n weight t (f, k)) =
            withShares n weight k (f :: ranking) t ∧ (addPlace n weight t (f, k)).ids = t.ids :=
          addPlace_known ht hf hmem
        rw [e, newShares, newShares, hids', List.filter_cons_of_neg (by simpa using hmem)]
        congr 1
        exact List.map_congr_left fun g hg => by rw [hrest g (List.mem_of_mem_filter hg)]
      · obtain ⟨e, hids'⟩ : withShares n weight (k + 1) ranking (addPlace n weight t (f, k)) =
            withShares n weight k (f :: ranking) t ++ [⟨f, addShareFrom n weight k (f :: ranking) f.id 0.0⟩] ∧
              (addPlace n weight t (f, k)).ids = t.ids ++ [f.id] :=
          addPlace_new hf hmem
        rw [e, newShares, newShares, hids', List.filter_cons_of_pos (by simpa using hmem), List.map_cons,
          List.append_assoc, List.singleton_append]
        congr 2
        have hfilter : ranking.filter (·.id ∉ t.ids ++ [f.id]) = ranking.filter (·.id ∉ t.ids) := by
          refine List.filter_congr fun g hg => decide_eq_decide.mpr ?_
          have hne : g.id ≠ f.id := fun h => hf (List.mem_map.mpr ⟨g, hg, h⟩)
          rw [List.mem_append, List.mem_singleton, or_iff_left hne]
        rw [hfilter]
        exact List.map_congr_left fun g hg => by rw [hrest g (List.mem_of_mem_filter hg)]

/-- What adding a whole ranking does to a table. -/
theorem addPositions_eq {ranking : List Fragment} {t : ScoreTable α} (hr : (idsOf ranking).Nodup)
    (ht : t.ids.Nodup) :
    addPositions weight ranking t =
      (t.map fun e => ⟨e.fragment, addShare weight ranking e.fragment.id e.score⟩) ++
        (ranking.filter (·.id ∉ t.ids)).map fun f => ⟨f, addShare weight ranking f.id 0.0⟩ :=
  foldl_addPlace ranking 0 t hr ht

end Pass

/-! ## 3. The three passes -/

section Passes

/-- Fragments, and behind them those that a ranking adds. -/
def extended (fs ranking : List Fragment) : List Fragment := fs ++ ranking.filter (·.id ∉ idsOf fs)

variable {fs ranking k d e : List Fragment}

theorem extended_nil (ranking : List Fragment) : extended [] ranking = ranking :=
  List.filter_eq_self.mpr fun _ _ => decide_eq_true List.not_mem_nil

theorem mem_idsOf_extended {id : String} : id ∈ idsOf (extended fs ranking) ↔ id ∈ idsOf fs ∨ id ∈ idsOf ranking := by
  unfold extended idsOf
  rw [List.map_append, List.mem_append]
  constructor
  · rintro (h | h)
    · exact Or.inl h
    · exact Or.inr ((List.filter_sublist.map _).subset h)
  · intro h
    by_cases hfs : id ∈ fs.map (·.id)
    · exact Or.inl hfs
    · obtain ⟨f, hf, rfl⟩ := List.mem_map.mp (h.resolve_left hfs)
      exact Or.inr (List.mem_map_of_mem (List.mem_filter.mpr ⟨hf, decide_eq_true hfs⟩))

theorem nodup_extended (hfs : (idsOf fs).Nodup) (hr : (idsOf ranking).Nodup) :
    (idsOf (extended fs ranking)).Nodup := by
  unfold extended
  simp only [idsOf, List.map_append]
  rw [List.nodup_append]
  refine ⟨hfs, hr.sublist (List.filter_sublist.map _), ?_⟩
  rintro i hi _ hj rfl
  obtain ⟨f, hf, rfl⟩ := List.mem_map.mp hj
  exact of_decide_eq_true (List.mem_filter.mp hf).2 hi

/-- Merging is extending twice. -/
theorem merged_eq (k d e : List Fragment) : merged k d e = extended (extended k d) e := by
  have h : e.filter (·.id ∉ idsOf (extended k d)) = e.filter fun f => f.id ∉ idsOf k ∧ f.id ∉ idsOf d := by
    refine List.filter_congr fun f _ => decide_eq_decide.mpr ?_
    rw [mem_idsOf_extended, not_or]
  rw [extended, h]
  rfl

theorem mem_idsOf_merged {id : String} : id ∈ idsOf (merged k d e) ↔ id ∈ idsOf k ∨ id ∈ idsOf d ∨ id ∈ idsOf e := by
  rw [merged_eq, mem_idsOf_extended, mem_idsOf_extended, or_assoc]

theorem nodup_merged (hk : (idsOf k).Nodup) (hd : (idsOf d).Nodup) (he : (idsOf e).Nodup) :
    (idsOf (merged k d e)).Nodup := by
  rw [merged_eq]
  exact nodup_extended (nodup_extended hk hd) he

/-- Adding a ranking to a table in which the fragments have the scores of their ids: the table is extended by
the ranking, and all have their shares. An id that is not in the table counts zero. -/
theorem addPositions_map {weight : α} (s : String → α) (hr : (idsOf ranking).Nodup) (hfs : (idsOf fs).Nodup)
    (hs : ∀ id, id ∉ idsOf fs → s id = 0.0) :
    addPositions weight ranking (fs.map fun f => ⟨f, s f.id⟩) =
      (extended fs ranking).map fun f => ⟨f, addShare weight ranking f.id (s f.id)⟩ := by
  have hids : ScoreTable.ids (fs.map fun f => (⟨f, s f.id⟩ : Scored α)) = idsOf fs := List.map_map
  rw [addPositions_eq hr (hids ▸ hfs), hids, List.map_map, extended, List.map_append]
  congr 1
  refine List.map_congr_left fun f hf => ?_
  rw [hs f.id (of_decide_eq_true (List.mem_filter.mp hf).2)]

/-- **The fused table**: the merged fragments, each with its shares. -/
theorem fuse_eq (weights : Table String α) (hk : (idsOf k).Nodup) (hd : (idsOf d).Nodup) (he : (idsOf e).Nodup) :
    fuse weights k d e = (merged k d e).map fun f => ⟨f, fusedScore weights k d e f.id⟩ := by
  let sk : String → α := fun id => addShare (weightOf "keyword" weights) k id 0.0
  let sd : String → α := fun id => addShare (weightOf "dependency" weights) d id (sk id)
  -- what is not in the table so far has no share of the rankings that were added
  have hsk : ∀ id, id ∉ idsOf k → sk id = 0.0 := fun _ h => addShare_of_not_mem h
  have hsd : ∀ id, id ∉ idsOf (extended k d) → sd id = 0.0 := by
    intro id h
    rw [mem_idsOf_extended, not_or] at h
    exact (addShare_of_not_mem h.2).trans (hsk id h.1)
  have ek : addPositions (weightOf "keyword" weights) k ([] : ScoreTable α) = k.map fun f => ⟨f, sk f.id⟩ := by
    have h : addPositions (weightOf "keyword" weights) k (([] : List Fragment).map fun f => (⟨f, 0.0⟩ : Scored α)) =
        (extended [] k).map fun f => ⟨f, sk f.id⟩ :=
      addPositions_map (fun _ => 0.0) hk List.nodup_nil fun _ _ => rfl
    rw [extended_nil] at h
    exact h
  have ed : addPositions (weightOf "dependency" weights) d (k.map fun f => ⟨f, sk f.id⟩) =
      (extended k d).map fun f => ⟨f, sd f.id⟩ := addPositions_map sk hd hk hsk
  unfold fuse
  rw [ek, ed, addPositions_map sd he (nodup_extended hk hd) hsd, merged_eq]
  rfl

end Passes

/-! ## 4. Divisions -/

section Divisions

/-- `i / n` as a score; there is none if `n` is zero. -/
def quotient? (i n : Nat) : Option α := if n = 0 then none else some ((i : α) / (n : α))

/-- Adds the share of the weight for place `i` of `n`, if `i` can be divided by `n`. -/
def addPlace? (n : Nat) (weight : α) (t : ScoreTable α) (p : Fragment × Nat) : Option (ScoreTable α) :=
  (quotient? p.2 n).map fun q => t.adjust p.1 fun s => s.getD 0.0 + (1.0 - q) * weight

/-- Adds the shares of a ranking, if every division can be made. -/
def addPositions? (weight : α) (ranking : List Fragment) (t : ScoreTable α) : Option (ScoreTable α) :=
  ranking.zipIdx.foldlM (addPlace? ranking.length weight) t

/-- The fused table of three rankings, if every division can be made. -/
def fuse? (weights : Table String α) (k d e : List Fragment) : Option (ScoreTable α) := do
  addPositions? (weightOf "embedding" weights) e
    (← addPositions? (weightOf "dependency" weights) d (← addPositions? (weightOf "keyword" weights) k []))

theorem foldlM_addPlace? {n : Nat} (hn : n ≠ 0) (weight : α) (ps : List (Fragment × Nat)) :
    ∀ t, ps.foldlM (addPlace? n weight) t = some (ps.foldl (addPlace n weight) t) := by
  induction ps with
  | nil => intro t; rfl
  | cons p ps ih =>
      intro t
      have e : addPlace? n weight t p = some (addPlace n weight t p) := by
        unfold addPlace? quotient?
        rw [if_neg hn]
        rfl
      rw [List.foldlM_cons, e]
      exact ih _

/-- A length that is divided by is that of a ranking with a member. -/
theorem addPositions?_eq (weight : α) (ranking : List Fragment) (t : ScoreTable α) :
    addPositions? weight ranking t = some (addPositions weight ranking t) := by
  cases ranking with
  | nil => rfl
  | cons f ranking => exact foldlM_addPlace? (Nat.succ_ne_zero _) weight _ t

/-- **No division by zero**: every division of the fusion can be made. -/
theorem fuse?_eq (weights : Table String α) (k d e : List Fragment) :
    fuse? weights k d e = some (fuse weights k d e) := by
  unfold fuse?
  rw [addPositions?_eq, Option.bind_eq_bind, Option.bind_some, addPositions?_eq, Option.bind_some, addPositions?_eq]
  rfl

end Divisions

/-! ## 5. The table of a hybrid ranking -/

/-- The score table of three rankings by definition: the merged fragments in their order, and of each the sum of
its shares, multiplied once by what raises it for the query. -/
def reference (y : Yardstick α) (weights : Table String α) (ix : Index) (query : String) (k d e : List Fragment) :
    ScoreTable α :=
  (merged k d e).map fun f => ⟨f, fusedScore weights k d e f.id * boost y ix query f⟩

theorem raised_fuse (y : Yardstick α) (weights : Table String α) (ix : Index) (query : String)
    {k d e : List Fragment} (hk : (idsOf k).Nodup) (hd : (idsOf d).Nodup) (he : (idsOf e).Nodup) :
    raised y ix query (fuse weights k d e) = reference y weights ix query k d e := by
  rw [raised, fuse_eq weights hk hd he, List.map_map]
  rfl

/-- The fragments of a table of records have different ids. -/
theorem nodup_idsOf {β : Type} {ix : Index} {t : ScoreTable β} (h : Records ix t) : (idsOf (fragmentsOf t)).Nodup := by
  have e : idsOf (fragmentsOf t) = t.ids := List.map_map
  rw [e]
  exact h.once

/-- What the ranking by keyword gives, if it gives something. -/
theorem keyword_records {y : Yardstick α} {ix : Index} {query : String} {limit : Int} {keyword : ScoreTable α}
    (h : Keyword.rank y ix query limit = .ok keyword) : Records ix keyword := by
  have e : Keyword.rank y ix query limit = (Keyword.table y ix query).map (ScoreTable.best limit) := rfl
  rw [e] at h
  rcases Keyword.table_records y ix query with ⟨e', he, _⟩ | ⟨t, ht, hr⟩
  · rw [he] at h
    cases h
  · rw [ht] at h
    obtain rfl : t.best limit = keyword := Except.ok.inj h
    exact hr.best limit

/-- **The table of a hybrid ranking is that of the definition.** It fails exactly where the ranking by keyword
fails, and asks nobody then. Otherwise let `k`, `d` and `e` be what the three rankings give for twice the limit;
`e` is empty if the meaning is not taken into account, and then nobody is asked. The table is the reference
table of `k`, `d` and `e`. It holds exactly the ids that are in one of them, each once, in each of them no id
has two places, and no place is divided by zero. -/
theorem table_is_reference (y : Yardstick α) (o : Outside) (h : Hybrid α) (ix : Index) (query : String) (limit : Int)
    (j : Journal) :
    (∀ fault, Keyword.rank y ix query (limit * 2) = .error fault → h.table y o ix query limit j = (.error fault, j)) ∧
    (∀ keyword, Keyword.rank y ix query (limit * 2) = .ok keyword →
      ∃ k d e : List Fragment, k = fragmentsOf keyword ∧
        d = fragmentsOf (Proximity.rank (α := α) ix query (limit * 2)) ∧
        e = (if h.usesEmbeddings then fragmentsOf (Semantic.rank o h.embedder ix query (limit * 2) j).1 else []) ∧
        (h.table y o ix query limit j).1 = .ok (reference y h.weights ix query k d e) ∧
        (idsOf k).Nodup ∧ (idsOf d).Nodup ∧ (idsOf e).Nodup ∧
        (reference y h.weights ix query k d e).ids = idsOf (merged k d e) ∧ (idsOf (merged k d e)).Nodup ∧
        (∀ id, id ∈ idsOf (merged k d e) ↔ id ∈ idsOf k ∨ id ∈ idsOf d ∨ id ∈ idsOf e) ∧
        fuse? h.weights k d e = some (fuse h.weights k d e)) ∧
    (h.usesEmbeddings = false → (h.table y o ix query limit j).2 = j) := by
  refine ⟨fun fault hf => ?_, fun keyword hk => ?_, fun hu => ?_⟩
  · rw [table_run, hf]
  · let k := fragmentsOf keyword
    let d := fragmentsOf (Proximity.rank (α := α) ix query (limit * 2))
    let e := fragmentsOf (meant o h ix query (limit * 2) j).1
    have nk : (idsOf k).Nodup := nodup_idsOf (keyword_records hk)
    have nd : (idsOf d).Nodup := nodup_idsOf ((Proximity.table_records ix query).best _)
    have ne : (idsOf e).Nodup := nodup_idsOf (meant_records o h ix query _ j)
    refine ⟨k, d, e, rfl, rfl, ?_, ?_, nk, nd, ne, List.map_map, nodup_merged nk nd ne, fun id => mem_idsOf_merged,
      fuse?_eq h.weights k d e⟩
    · unfold e meant
      split <;> rfl
    · rw [table_run, hk]
      exact congrArg Except.ok (raised_fuse y h.weights ix query nk nd ne)
  · rw [table_run, meant, hu]
    cases Keyword.rank y ix query (limit * 2) with
    | error e => rfl
    | ok keyword => rfl

/-- A hybrid ranking without embeddings, with the same weight for the other two. -/
def halves : Hybrid Float := ⟨.disabled, false, [("keyword", 0.5), ("dependency", 0.5)]⟩

/-- In the chain the first method is found by both rankings, in the first place, and the second method by
proximity only, in the second of two places: the first gets all of both weights, the second half of one. -/
theorem table_is_reference_chain :
    ∃ keyword t, Keyword.rank (.of .standard) Proximity.chain "aaa" (1 * 2) = .ok keyword ∧
      (halves.table (.of .standard) silence Proximity.chain "aaa" 1 {}).1 = .ok t ∧
      t.map (fun e => (e.fragment.id, e.score)) = [("aaa", 1.0), ("bbb", 0.25)] ∧
      (fuse? halves.weights (fragmentsOf keyword)
        (fragmentsOf (Proximity.rank (α := Float) Proximity.chain "aaa" (1 * 2))) []).isSome ∧
      halves.usesEmbeddings = false ∧ (halves.table (.of .standard) silence Proximity.chain "aaa" 1 {}).2 = {} := by
  have hk : ∃ keyword, Keyword.rank (.of .standard) Proximity.chain "aaa" (1 * 2) = .ok keyword ∧
      fragmentsOf keyword = [Proximity.link "aaa" ["bbb"]] := by
    have ht : (Keyword.table (.of .standard) Proximity.chain "aaa").toOption.map (fragmentsOf ·) =
        some [Proximity.link "aaa" ["bbb"]] := by decide +kernel
    cases e : Keyword.table (.of .standard) Proximity.chain "aaa" with
    | error fault =>
        rw [e] at ht
        cases ht
    | ok t =>
        rw [e] at ht
        obtain ⟨entry, rfl, he⟩ := List.map_eq_singleton_iff.mp (Option.some.inj ht)
        refine ⟨ScoreTable.best (1 * 2) [entry], congrArg (Except.map _) e, ?_⟩
        rw [ScoreTable.best, ScoreTable.sorted, List.mergeSort_singleton, ← he]
        rfl
  have hd : fragmentsOf (Proximity.rank (α := Float) Proximity.chain "aaa" (1 * 2)) =
      [Proximity.link "aaa" ["bbb"], Proximity.link "bbb" ["ccc"]] := by
    unfold Proximity.rank ScoreTable.best ScoreTable.sorted
    rw [List.mergeSort_of_pairwise (by decide +kernel)]
    decide +kernel
  obtain ⟨keyword, hk, ek⟩ := hk
  obtain ⟨_, hok, hoff⟩ := table_is_reference (.of .standard) silence halves Proximity.chain "aaa" 1 {}
  obtain ⟨k, d, e, rfl, rfl, rfl, ht, _, _, _, _, _, _, hdiv⟩ := hok keyword hk
  refine ⟨keyword, _, hk, ht, ?_, ?_, rfl, hoff rfl⟩
  · rw [ek, hd]
    decide +kernel
  · exact Option.isSome_iff_exists.mpr ⟨_, hdiv⟩

end FragmentSearch.Hybrid
