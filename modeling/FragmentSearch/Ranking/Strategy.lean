import FragmentSearch.Ranking.Hybrid

/-!
# Choosing a ranking

The four rankings under one type, and the results of a ranking as they are shown.
-/

namespace FragmentSearch

/-- The similarity of names and the natural logarithm on floating point numbers. -/
def Yardstick.of (lib : Library) : Yardstick Float := ⟨lib.nameSimilarity, fun n => (Float.ofNat n).log⟩

/-- A way of ranking. -/
inductive Strategy where
  | keyword
  | proximity
  | semantic (embedder : Embedder)
  | hybrid (h : Hybrid Float)

/-- There is no ranking of this name. -/
structure UnknownStrategy where
  name : String

/-- The report of an error. -/
def UnknownStrategy.message (e : UnknownStrategy) : String :=
  "Unknown strategy '" ++ e.name ++ "'. Supported: hybrid, keyword, dependency, embedding"

namespace Strategy

/-- The ranking of a name; case does not matter. -/
def ofName (name : String) (embedder : Embedder) (usesEmbeddings : Bool) (weights : Option (Table String Float)) :
    Except UnknownStrategy Strategy :=
  match Text.lower name with
  | "hybrid" => .ok (.hybrid ⟨embedder, usesEmbeddings, resolveWeights usesEmbeddings weights⟩)
  | "keyword" => .ok .keyword
  | "dependency" => .ok .proximity
  | "embedding" => .ok (.semantic embedder)
  | other => .error ⟨other⟩

/-- The name of a ranking in results. -/
def name : Strategy → String
  | .keyword => "Keyword-Based"
  | .proximity => "Dependency-Based"
  | .semantic _ => "Embedding-Based (Semantic)"
  | .hybrid h => h.name

/-- The best fragments for a query. -/
def rank (o : Outside) (s : Strategy) (ix : Index) (query : String) (limit : Int) :
    Session (Except RankingFault (ScoreTable Float)) :=
  match s with
  | .keyword => pure (Keyword.rank (.of o.library) ix query limit)
  | .proximity => pure (.ok (Proximity.rank ix query limit))
  | .semantic e => do return .ok (← Semantic.rank o e ix query limit)
  | .hybrid h => h.rank (.of o.library) o ix query limit

/-- The relevance of one fragment by itself. -/
def relevance (lib : Library) (s : Strategy) (query : String) (f : Fragment) : Except RankingFault Float :=
  match s with
  | .keyword => Keyword.relevance (.of lib) query f
  | .proximity => .ok (Proximity.relevance f)
  | .semantic _ => .ok 0.0
  | .hybrid h => h.relevance (.of lib) query f

end Strategy

/-! ## 1. Results -/

/-- A result of a search as it is shown. -/
structure SearchResult where
  id : String
  name : Option String
  kind : String
  filePath : String
  startLine : Int
  endLine : Int
  score : Float
  /-- The place in the ranking, counted from 1. -/
  place : Int
  strategy : String
  package : String
  signature : String
  /-- The documentation. -/
  context : String

/-- The result for an entry of a ranking at place `i`, counted from 0. -/
def SearchResult.ofScored (strategy : String) (e : Scored Float) (i : Nat) : SearchResult :=
  { id := e.fragment.id, name := e.fragment.name, kind := e.fragment.kind.name, filePath := e.fragment.filePath,
    startLine := e.fragment.startLine, endLine := e.fragment.endLine, score := e.score, place := i + 1,
    strategy := strategy, package := e.fragment.package.getD "", signature := e.fragment.signature.getD "",
    context := e.fragment.documentation.getD "" }

/-- The results of a ranking. -/
def SearchResult.ofRanking (strategy : String) (t : ScoreTable Float) : List SearchResult :=
  t.zipIdx.map fun p => .ofScored strategy p.1 p.2

end FragmentSearch
