import FragmentSearch.Index.Basic
import FragmentSearch.Provider.Embedding
import FragmentSearch.Ranking.ScoreTable

/-!
# Ranking by meaning

The query is turned into a vector, and fragments with a vector of the same dimension are ranked by how
similar it is. When no vector of the query can be had, for whatever reason, nothing is found.
-/

namespace FragmentSearch.Semantic

/-- The first item of a reply that can be indexed. -/
def firstItem? : Json → Option Json
  | .list (v :: _) => some v
  | .text s => s.toList.head?.map fun c => .text (String.ofList [c])
  | _ => none

/-- The vector of the query that a reply gives, if it gives one. -/
def queryVector? (reply : Json) : Option (List Float) :=
  match firstItem? reply with
  | none => none
  | some v =>
    match v.toFloats with
    | .ok (x :: xs) => some (x :: xs)
    | _ => none

/-- Enters a fragment whose vector has the dimension of the query. -/
def enter (lib : Library) (q : List Float) (t : ScoreTable Float) (f : Fragment) : ScoreTable Float :=
  match f.embedding with
  | some v => if !v.isEmpty && v.length = q.length then t.put f (lib.cosine q v) else t
  | none => t

/-- The score table of a query vector. -/
def table (lib : Library) (ix : Index) (q : List Float) : ScoreTable Float := ix.fragments.foldl (enter lib q) []

/-- The best fragments for a query vector. -/
def rankVector (lib : Library) (ix : Index) (q : List Float) (limit : Int) : ScoreTable Float :=
  (table lib ix q).best limit

/-- The best fragments for a reply of the embedder. -/
def rankReply (lib : Library) (ix : Index) (reply : Except ServiceFailure Json) (limit : Int) : ScoreTable Float :=
  match reply with
  | .error _ => []
  | .ok v =>
    match queryVector? v with
    | some q => rankVector lib ix q limit
    | none => []

/-- The best fragments for a query; an embedder that is not available is not asked. -/
def rank (o : Outside) (e : Embedder) (ix : Index) (query : String) (limit : Int) : Session (ScoreTable Float) := do
  if e.isAvailable then return rankReply o.library ix (← e.ask o [query]) limit
  else return []

end FragmentSearch.Semantic
