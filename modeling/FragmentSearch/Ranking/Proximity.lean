import FragmentSearch.Index.Search
import FragmentSearch.Ranking.ScoreTable

/-!
# Ranking by proximity

The first fragments that a query hits are the seeds. From them the ranking goes along dependencies and
siblings, two steps at most, and scores what it reaches by how it is connected with the seeds.
-/

namespace FragmentSearch.Proximity

/-! ## 1. Reaching out -/

/-- So many seeds are taken. -/
def seedCount : Nat := 3

/-- So many steps are made. -/
def maxDepth : Nat := 2

/-- So many siblings are followed. -/
def siblingLimit : Nat := 3

/-- The fragments from which a query starts. -/
def seeds (ix : Index) (query : String) : List Fragment := (ix.search query).take seedCount

/-- The fragments one step away. -/
def neighbours (ix : Index) (f : Fragment) : List Fragment :=
  ix.dependencies f.id ++ ix.dependents f.id ++ (ix.siblings f).take siblingLimit

/-- A fragment and the number of steps to it. -/
structure Reached where
  fragment : Fragment
  depth : Nat

/-- Adds a fragment at a depth unless it was reached before. -/
def reach (depth : Nat) (found : List Reached) (f : Fragment) : List Reached :=
  if found.any (·.fragment.id = f.id) then found else found ++ [⟨f, depth⟩]

/-- Makes `steps` more steps from the fragments in `frontier`, which were reached at `depth`. -/
def widen (next : Fragment → List Fragment) : Nat → Nat → List Fragment → List Reached → List Reached
  | 0, _, _, found => found
  | steps + 1, depth, frontier, found =>
    let wider := (frontier.flatMap next).foldl (reach (depth + 1)) found
    widen next steps (depth + 1) ((wider.drop found.length).map (·.fragment)) wider

/-- What is reached from some fragments, in the order of discovery. -/
def expand (ix : Index) (start : List Fragment) : List Reached :=
  let found := start.foldl (reach 0) []
  widen (neighbours ix) maxDepth 0 (found.map (·.fragment)) found

/-! ## 2. Scores -/

variable {α : Type} [Score α]

/-- Does one of two fragments name the other, or are they in one package? -/
def connected (a b : Fragment) : Bool :=
  (b.name.any a.dependencies.contains) || (a.name.any b.dependencies.contains) ||
    (a.package.isSome && a.package = b.package)

/-- Classes and methods count more. -/
def kindFactor : Kind → α
  | .classKind => 1.3
  | .method => 1.2
  | _ => 1.0

/-- The score of a fragment: seeds score most, others by each seed they are connected with. -/
def score (start : List Fragment) (f : Fragment) : α :=
  let s : α :=
    if start.any (·.id = f.id) then 10.0
    else start.foldl (fun s seed => if connected f seed then s + 5.0 else s + 2.0) 0.0
  s * kindFactor f.kind

/-- The score table of what is reached from some fragments. -/
def tableFrom (ix : Index) (start : List Fragment) : ScoreTable α :=
  (expand ix start).foldl (fun t r => t.put r.fragment (score start r.fragment)) []

/-- The score table of a query. -/
def table (ix : Index) (query : String) : ScoreTable α :=
  let start := seeds ix query
  if start.isEmpty then [] else tableFrom ix start

/-- The best fragments for a query. -/
def rank (ix : Index) (query : String) (limit : Int) : ScoreTable α := (table ix query).best limit

/-- The relevance of one fragment by itself. -/
def relevance (f : Fragment) : α := if f.dependencies.isEmpty then 0.3 else 0.7

end FragmentSearch.Proximity
