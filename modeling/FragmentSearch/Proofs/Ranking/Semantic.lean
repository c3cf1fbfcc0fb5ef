import FragmentSearch.Proofs.Provider.Vectors
import FragmentSearch.Proofs.Ranking.BestFirst

/-!
# The ranking by meaning, whatever the embedder replies

The reply for a query is a value of any shape, and only its first item counts. Either that is a vector, and then
the fragments of its dimension are ranked, or nothing is found:

* `QueryVector r q` -- the first item of the reply `r` has items, at least one, and `q` are they as numbers;
* `queryVector?_eq_some_iff` -- this is the vector that the ranking takes;
* `compared lib q fs` -- the fragments with a vector of the dimension of `q`, each with its similarity to `q`;
* `foldlM_enter?` -- no comparison that the ranking makes can fail;
* `table_eq` -- where no id occurs twice, the score table is `compared lib q fs`;
* `rank_comparable` -- what the ranking gives, and what it asks for.
-/

namespace FragmentSearch.Semantic

/-! ## 1. The vector of a query -/

section Reply

variable {reply v : Json} {q : List Float}

/-- The first item of a value: the first member of a list, the first character of a text. -/
inductive First : Json → Json → Prop
  | list (v : Json) (rest : List Json) : First (.list (v :: rest)) v
  | text (c : Char) (rest : List Char) : First (.text (String.ofList (c :: rest))) (.text (String.ofList [c]))

/-- The first item of a reply has items, at least one, and `q` are they as numbers. -/
def QueryVector (reply : Json) (q : List Float) : Prop :=
  ∃ v items, First reply v ∧ v.items = .ok items ∧ items ≠ [] ∧ List.Forall₂ (fun w x => w.toFloat = .ok x) items q

theorem firstItem?_eq_some_iff : firstItem? reply = some v ↔ First reply v := by
  constructor
  · intro h
    unfold firstItem? at h
    split at h
    · cases h
      exact .list _ _
    · next s =>
        obtain ⟨c, hc, rfl⟩ := Option.map_eq_some_iff.mp h
        obtain ⟨rest, hs⟩ := List.head?_eq_some_iff.mp hc
        rw [← String.ofList_toList (s := s), hs]
        exact .text c rest
    · cases h
  · intro h
    cases h with
    | list rest => rfl
    | text c rest =>
        show (String.ofList (c :: rest)).toList.head?.map _ = _
        rw [String.toList_ofList]
        rfl

theorem queryVector?_eq (reply : Json) : queryVector? reply = (firstItem? reply).bind Json.vector? := by
  unfold queryVector?
  cases firstItem? reply <;> rfl

/-- **The vector that the ranking takes from a reply** is the first item as numbers. -/
theorem queryVector?_eq_some_iff : queryVector? reply = some q ↔ QueryVector reply q := by
  rw [queryVector?_eq, Option.bind_eq_some_iff]
  constructor
  · rintro ⟨v, hv, hq⟩
    obtain ⟨items, hitems, hne, hall⟩ := vector?_eq_some_iff.mp hq
    exact ⟨v, items, firstItem?_eq_some_iff.mp hv, hitems, hne, hall⟩
  · rintro ⟨v, items, hv, hitems, hne, hall⟩
    exact ⟨v, firstItem?_eq_some_iff.mpr hv, vector?_eq_some_iff.mpr ⟨items, hitems, hne, hall⟩⟩

end Reply

/-! ## 2. The scan -/

section Scan

variable {lib : Library} {q : List Float} {fs : List Fragment}

/-- Has the fragment a vector of the dimension of `q`, and not an empty one? -/
def isComparable (q : List Float) (f : Fragment) : Bool :=
  f.isEmbedded && (f.embedding.getD []).length = q.length

/-- The fragments that can be compared with `q`, in their order, each with the similarity of its vector. -/
def compared (lib : Library) (q : List Float) (fs : List Fragment) : ScoreTable Float :=
  (fs.filter (isComparable q)).map fun f => ⟨f, lib.cosine q (f.embedding.getD [])⟩

theorem enter_eq (t : ScoreTable Float) (f : Fragment) :
    enter lib q t f = if isComparable q f then t.put f (lib.cosine q (f.embedding.getD [])) else t := by
  unfold enter isComparable Fragment.isEmbedded
  cases f.embedding with
  | none => rfl
  | some v => cases v <;> rfl

/-- The ids of the entries are those of fragments. -/
theorem ids_compared_sublist (lib : Library) (q : List Float) (fs : List Fragment) :
    (compared lib q fs).ids.Sublist (fs.map (·.id)) := by
  unfold compared ScoreTable.ids
  rw [List.map_map]
  exact List.filter_sublist.map _

/-- **The score table of a query vector**, where no id occurs twice. -/
theorem table_eq {ix : Index} (hids : (ix.fragments.map (·.id)).Nodup) (q : List Float) :
    table lib ix q = compared lib q ix.fragments := by
  have hscan : table lib ix q = (ix.fragments.filter (isComparable q)).foldl
      (fun t f => ScoreTable.put f (lib.cosine q (f.embedding.getD [])) t) [] := by
    rw [List.foldl_filter]
    exact congrArg (ix.fragments.foldl · []) (funext₂ enter_eq)
  rw [hscan]
  exact ScoreTable.foldl_put_eq id (fun f => lib.cosine q (f.embedding.getD [])) _ []
    (hids.sublist (List.filter_sublist.map _))

/-- Enters a fragment whose vector has the dimension of the query, if the two can be compared. -/
def enter? (lib : Library) (q : List Float) (t : ScoreTable Float) (f : Fragment) :
    Except DimensionMismatch (ScoreTable Float) :=
  match f.embedding with
  | some v => if !v.isEmpty && v.length = q.length then (lib.cosine? q v).map (t.put f ·) else .ok t
  | none => .ok t

theorem enter?_eq (t : ScoreTable Float) (f : Fragment) : enter? lib q t f = .ok (enter lib q t f) := by
  unfold enter? enter
  cases f.embedding with
  | none => rfl
  | some v =>
      dsimp only
      split
      · next h =>
          have hlength : q.length = v.length := (of_decide_eq_true (Bool.and_eq_true_iff.mp h).2).symm
          rw [Library.cosine?, if_pos hlength]
          rfl
      · rfl

/-- **No comparison of the scan can fail.** -/
theorem foldlM_enter? (q : List Float) (fs : List Fragment) :
    ∀ t, fs.foldlM (enter? lib q) t = .ok (fs.foldl (enter lib q) t) := by
  induction fs with
  | nil => intro t; rfl
  | cons f fs ih =>
      intro t
      rw [List.foldlM_cons, enter?_eq]
      exact ih _

end Scan

/-! ## 3. The ranking -/

section Ranking

variable {lib : Library} {o : Outside} {e : Embedder} {ix : Index} {query : String} {limit : Int} {j : Journal}

/-- A reply without a vector of the query finds nothing. -/
theorem rankReply_of_none {reply : Except ServiceFailure Json} (h : ∀ v q, reply = .ok v → ¬ QueryVector v q) :
    rankReply lib ix reply limit = [] := by
  unfold rankReply
  cases reply with
  | error fault => rfl
  | ok v =>
      cases hq : queryVector? v with
      | none => simp only [hq]
      | some q => exact absurd (queryVector?_eq_some_iff.mp hq) (h v q rfl)

/-- A reply with a vector of the query finds what can be compared with it. -/
theorem rankReply_of_vector (hids : (ix.fragments.map (·.id)).Nodup) {v : Json} {q : List Float} (h : QueryVector v q) :
    rankReply lib ix (.ok v) limit = (compared lib q ix.fragments).best limit := by
  have hq : queryVector? v = some q := queryVector?_eq_some_iff.mpr h
  simp only [rankReply, hq, rankVector, table_eq hids]

theorem strategy_rank (o : Outside) (e : Embedder) (ix : Index) (query : String) (limit : Int) (j : Journal) :
    (Strategy.semantic e).rank o ix query limit j = (.ok (rank o e ix query limit j).1, (rank o e ix query limit j).2) :=
  rfl

end Ranking

/-- **The ranking by meaning finds exactly what can be compared with the vector of the query.** It never fails. An
embedder that is not available is not asked, and nothing is found; any other is asked once, for the query alone. If the
reply is a failure, or its first item is not a vector, nothing is found. Otherwise no comparison of the scan can fail, and
given are the first entries of an arrangement of the fragments with a vector of that dimension: if all similarities are
numbers, of the only one by similarity that does not increase. All other fragments have no influence on it. -/
theorem rank_comparable (o : Outside) (e : Embedder) (ix : Index) (hids : (ix.fragments.map (·.id)).Nodup)
    (query : String) (limit : Int) (j : Journal) :
    let found := (Strategy.semantic e).rank o ix query limit j
    let asked := e.ask o [query] j
    (e.isAvailable = false → found = (.ok [], j)) ∧
    (e.isAvailable = true →
      found.2 = asked.2 ∧
      ((∀ v q, asked.1 = .ok v → ¬ QueryVector v q) → found.1 = .ok []) ∧
      ∀ v q, asked.1 = .ok v → QueryVector v q →
        ix.fragments.foldlM (enter? o.library q) [] = .ok (compared o.library q ix.fragments) ∧
        (∃ r, r.Perm (compared o.library q ix.fragments) ∧ found.1 = .ok (r.take limit.toNat) ∧
          ((compared o.library q ix.fragments).HasNumbers →
            (compared o.library q ix.fragments).Arranged r ∧ ∀ r', (compared o.library q ix.fragments).Arranged r' → r' = r)) ∧
        ∀ ix' : Index, (ix'.fragments.map (·.id)).Nodup →
          ix'.fragments.filter (isComparable q) = ix.fragments.filter (isComparable q) →
            (Strategy.semantic e).rank o ix' query limit j = found) := by
  intro found asked
  have hfound : ∀ ix : Index, e.isAvailable = true →
      (Strategy.semantic e).rank o ix query limit j = (.ok (rankReply o.library ix asked.1 limit), asked.2) := by
    intro ix h
    rw [strategy_rank, rank_run, if_pos h]
  refine ⟨fun h => ?_, fun h => ⟨?_, fun hnone => ?_, fun v q hv hq => ⟨?_, ?_, fun ix' hids' hsame => ?_⟩⟩⟩
  · show (Strategy.semantic e).rank o ix query limit j = _
    rw [strategy_rank, rank_run, if_neg (Bool.eq_false_iff.mp h)]
  · exact congrArg Prod.snd (hfound ix h)
  · refine (congrArg Prod.fst (hfound ix h)).trans (congrArg Except.ok ?_)
    exact rankReply_of_none hnone
  · rw [foldlM_enter?, ← table_eq hids]
    rfl
  · have hentries : (compared o.library q ix.fragments).Nodup := (hids.sublist (ids_compared_sublist o.library q _)).of_map _
    refine ⟨(compared o.library q ix.fragments).sorted, List.mergeSort_perm _ _, ?_, fun hnum => ?_⟩
    · refine (congrArg Prod.fst (hfound ix h)).trans (congrArg Except.ok ?_)
      rw [hv, rankReply_of_vector hids hq]
      rfl
    · have harranged := ScoreTable.arranged_sorted hnum hentries
      exact ⟨harranged, fun r' h' => h'.unique hnum hentries harranged⟩
  · have hsame' : compared o.library q ix'.fragments = compared o.library q ix.fragments := by
      unfold compared
      rw [hsame]
    show _ = (Strategy.semantic e).rank o ix query limit j
    rw [hfound ix h, hfound ix' h, hv, rankReply_of_vector hids hq, rankReply_of_vector hids' hq, hsame']

/-- Methods with a vector of two components, of three, with another of two, and with none. -/
def plane : Index := .ofFragments false
  [{ Proximity.link "right" [] with embedding := some [1, 0] }, { Proximity.link "space" [] with embedding := some [0, 4, 0] },
    { Proximity.link "up" [] with embedding := some [0, 2] }, Proximity.link "bare" []]

/-- The first item of the reply is a vector of two components, one of them written as a text. Two methods are compared with
it: the one above is nearer than the one to the right. -/
theorem rank_comparable_plane :
    let e : Embedder := .custom "mine" true fun _ _ => .ok (.list [.list [.text "3", .int 4], .null])
    (plane.fragments.map (·.id)).Nodup ∧ QueryVector (.list [.list [.text "3", .int 4], .null]) [3, 4] ∧
    (compared silence.library [3, 4] plane.fragments).HasNumbers ∧
    ∃ r : ScoreTable Float, ((Strategy.semantic e).rank silence plane "way" 2 {}).1 = .ok (r.take 2) ∧
      r.ids = ["up", "right"] := by
  intro e
  have hids : (plane.fragments.map (·.id)).Nodup := by decide
  have hq : QueryVector (.list [.list [.text "3", .int 4], .null]) [3, 4] :=
    ⟨_, _, .list _ _, rfl, List.cons_ne_nil _ _, .cons rfl (.cons rfl .nil)⟩
  have hnum : (compared silence.library [3, 4] plane.fragments).HasNumbers := by
    unfold ScoreTable.HasNumbers
    decide +kernel
  obtain ⟨-, -, hvector⟩ := (rank_comparable silence e plane hids "way" 2 {}).2 rfl
  obtain ⟨-, ⟨r, -, hr, hunique⟩, -⟩ := hvector _ _ rfl hq
  obtain ⟨x, y, hxy⟩ : ∃ x y, compared silence.library [3, 4] plane.fragments = [x, y] := ⟨_, _, rfl⟩
  have hids' : (compared silence.library [3, 4] plane.fragments).ids = ["right", "up"] := rfl
  have hless : ∀ a ∈ (compared silence.library [3, 4] plane.fragments).head?,
      ∀ b ∈ (compared silence.library [3, 4] plane.fragments).getLast?, a.score < b.score := by decide +kernel
  rw [hxy] at hids' hless hnum hunique
  have harranged : ScoreTable.Arranged [x, y] [y, x] :=
    ⟨List.Perm.swap _ _ _, List.pairwise_pair.mpr (Or.inl (hless x rfl y rfl))⟩
  refine ⟨hids, hq, hxy ▸ hnum, r, hr, ?_⟩
  rw [← (hunique hnum).2 _ harranged]
  obtain ⟨hx, hy⟩ : x.fragment.id = "right" ∧ y.fragment.id = "up" := by simpa [ScoreTable.ids] using hids'
  simp [ScoreTable.ids, hx, hy]

end FragmentSearch.Semantic
