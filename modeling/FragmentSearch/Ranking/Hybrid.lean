import FragmentSearch.Config.Basic
import FragmentSearch.Ranking.Keyword
import FragmentSearch.Ranking.Proximity
import FragmentSearch.Ranking.Semantic

/-!
# The hybrid ranking

The rankings by keyword, by proximity and, if wanted, by meaning are fused: a fragment gets for its place
in each a part of the weight of that ranking. Then its score is raised by what the query asks for and by
how much depends on it.
-/

namespace FragmentSearch

open FragmentSearch.Text

/-- A hybrid ranking: the weights, and whether and how the meaning is taken into account. -/
structure Hybrid (α : Type) where
  embedder : Embedder
  usesEmbeddings : Bool
  weights : Table String α

namespace Hybrid

variable {α : Type} [Score α]

/-! ## 1. Fusion -/

/-- Adds the share of the weight for place `i` of `n`. -/
def addPlace (n : Nat) (weight : α) (t : ScoreTable α) (p : Fragment × Nat) : ScoreTable α :=
  t.adjust p.1 fun s => s.getD 0.0 + (1.0 - (p.2 : α) / (n : α)) * weight

/-- Adds to every fragment of a ranking the share of the weight that its place gives. -/
def addPositions (weight : α) (ranking : List Fragment) (t : ScoreTable α) : ScoreTable α :=
  ranking.zipIdx.foldl (addPlace ranking.length weight) t

/-- The weight of a ranking; 0 if none is given. -/
def weightOf (name : String) (weights : Table String α) : α := (Table.get? name weights).getD 0.0

/-- The fused table of three rankings. -/
def fuse (weights : Table String α) (keyword proximity semantic : List Fragment) : ScoreTable α :=
  addPositions (weightOf "embedding" weights) semantic
    (addPositions (weightOf "dependency" weights) proximity
      (addPositions (weightOf "keyword" weights) keyword []))

/-! ## 2. Boosts -/

/-- Words of a query that asks for an explanation. -/
def explainMarkers : List String := ["how", "explain"]

/-- Words of a query that asks for something new. -/
def implementMarkers : List String := ["implement", "add"]

/-- Words of a query about a fault. -/
def bugMarkers : List String := ["bug", "error", "fix"]

/-- Words of a content that deals with faults. -/
def exceptionMarkers : List String := ["catch", "throw", "except", "raise"]

/-- Does a text hold one of some markers? -/
def mentions (markers : List String) (s : String) : Bool := markers.any (occursIn · s)

/-- Multiplies if a condition holds. -/
def boostIf (b : Bool) (factor s : α) : α := if b then s * factor else s

/-- The factor by which the score of a fragment is raised for a query. -/
def boost (y : Yardstick α) (ix : Index) (query : String) (f : Fragment) : α :=
  let q := lower query
  let explains := mentions explainMarkers q
  let dependents := (ix.dependents f.id).length
  boostIf (decide (2 < dependents)) (1.0 + y.logarithm dependents * 0.1)
    (boostIf (decide (3 < f.dependencies.length)) 1.2
      (boostIf (mentions bugMarkers q && mentions exceptionMarkers (f.content.getD "")) 1.3
        (boostIf (mentions implementMarkers q && f.kind = .method) 1.4
          (boostIf (explains && f.kind = .classKind) 1.3
            (boostIf (explains && f.isDocumented) 1.5 1.0)))))

/-- Raises all scores of a table. -/
def raised (y : Yardstick α) (ix : Index) (query : String) (t : ScoreTable α) : ScoreTable α :=
  t.map fun e => { e with score := e.score * boost y ix query e.fragment }

/-! ## 3. The ranking -/

/-- The name of the ranking. -/
def name (h : Hybrid α) : String :=
  if h.usesEmbeddings then "Hybrid (Keyword + Dependency + Semantic)" else "Hybrid (Keyword + Dependency)"

/-- The fragments of a score table. -/
def fragmentsOf {β : Type} (t : ScoreTable β) : List Fragment := t.map (·.fragment)

/-- The score table of a query, given what the ranking by meaning found. -/
def tableWith (y : Yardstick α) (weights : Table String α) (ix : Index) (query : String) (keyword : ScoreTable α)
    (candidates : Int) (semantic : List Fragment) : ScoreTable α :=
  raised y ix query
    (fuse weights (fragmentsOf keyword) (fragmentsOf (Proximity.rank (α := α) ix query candidates)) semantic)

/-- The score table of a query. Each of the rankings gives twice as many fragments as are wanted. -/
def table (y : Yardstick α) (o : Outside) (h : Hybrid α) (ix : Index) (query : String) (limit : Int) :
    Session (Except RankingFault (ScoreTable α)) := do
  let candidates := limit * 2
  match Keyword.rank y ix query candidates with
  | .error e => return .error e
  | .ok keyword =>
    let semantic ← if h.usesEmbeddings then Semantic.rank o h.embedder ix query candidates else pure []
    return .ok (tableWith y h.weights ix query keyword candidates (fragmentsOf semantic))

/-- The best fragments for a query. -/
def rank (y : Yardstick α) (o : Outside) (h : Hybrid α) (ix : Index) (query : String) (limit : Int) :
    Session (Except RankingFault (ScoreTable α)) := do
  return (← h.table y o ix query limit).map (ScoreTable.best limit)

/-- The relevance of one fragment by itself. -/
def relevance (y : Yardstick α) (h : Hybrid α) (query : String) (f : Fragment) : Except RankingFault α :=
  (Keyword.relevance y query f).map fun keyword =>
    keyword * weightOf "keyword" h.weights + Proximity.relevance f * weightOf "dependency" h.weights

end Hybrid

end FragmentSearch
