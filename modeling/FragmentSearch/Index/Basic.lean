import FragmentSearch.Index.Tokens
import FragmentSearch.Table

/-!
# The index

An index holds a set of fragments in the order in which they were given, and views on it that one pass
builds: by id, by kind, by package, by token, by dependency and by name. Views refer to fragments by their
place, so that a vector attached later is seen through all of them. Of several fragments with one id, the
last is the one found by id.
-/

namespace FragmentSearch

/-! ## 1. Structure -/

/-- A set of fragments with its views. -/
structure Index where
  /-- The fragments in the order given. -/
  fragments : List Fragment
  /-- May a dependency name the bare name of a fragment, or only its id? -/
  resolvesNames : Bool
  /-- The place of the last fragment with an id. -/
  place : Table String Nat
  /-- The places of the fragments of a kind. -/
  ofKind : Table Kind (List Nat)
  /-- The places of the fragments of a package. -/
  ofPackage : Table String (List Nat)
  /-- The ids of the fragments with a token, each once. -/
  postings : Table String (List String)
  /-- What the fragment of an id depends on, each name once. -/
  references : Table String (List String)
  /-- The ids of the fragments with a name. -/
  idsOfName : Table String (List String)

namespace Index

/-! ## 2. Construction -/

/-- Adds a member to a list unless it is there. -/
def addOnce {α : Type} [DecidableEq α] (x : α) (xs : List α) : List α := if x ∈ xs then xs else xs ++ [x]

/-- Posts an id under a token. -/
def post (id : String) (postings : Table String (List String)) (token : String) : Table String (List String) :=
  Table.adjust token (fun old => addOnce id (old.getD [])) postings

/-- The index over `fs` with no fragment entered yet. -/
def blank (resolvesNames : Bool) (fs : List Fragment) : Index :=
  { fragments := fs, resolvesNames := resolvesNames, place := [], ofKind := [], ofPackage := [],
    postings := [], references := [], idsOfName := [] }

/-- Enters the fragment that stands at place `i` into every view. -/
def enter (ix : Index) (f : Fragment) (i : Nat) : Index :=
  { ix with
    place := Table.put f.id i ix.place
    ofKind := Table.file f.kind i ix.ofKind
    ofPackage := match f.package with
      | some p => Table.file p i ix.ofPackage
      | none => ix.ofPackage
    postings := f.tokens.foldl (post f.id) ix.postings
    references := if f.dependencies.isEmpty then ix.references
      else Table.put f.id (distinct f.dependencies) ix.references
    idsOfName := match f.name with
      | some n => if ix.resolvesNames then Table.file n f.id ix.idsOfName else ix.idsOfName
      | none => ix.idsOfName }

/-- The index of a set of fragments. -/
def ofFragments (resolvesNames : Bool) (fs : List Fragment) : Index :=
  fs.zipIdx.foldl (fun ix p => ix.enter p.1 p.2) (blank resolvesNames fs)

/-! ## 3. Views -/

/-- The fragments at some places. -/
def pick (ix : Index) (places : List Nat) : List Fragment := places.filterMap (ix.fragments[·]?)

/-- The fragment of an id. -/
def get? (ix : Index) (id : String) : Option Fragment := (Table.get? id ix.place).bind (ix.fragments[·]?)

/-- The fragments of a kind. -/
def byKind (ix : Index) (k : Kind) : List Fragment := ix.pick ((Table.get? k ix.ofKind).getD [])

/-- The fragments of a package. -/
def byPackage (ix : Index) (p : String) : List Fragment := ix.pick ((Table.get? p ix.ofPackage).getD [])

/-- Texts in the order of their code points. -/
def inOrder (xs : List String) : List String := xs.mergeSort fun a b => !(b < a)

/-- The packages that have fragments, in order. -/
def packages (ix : Index) : List String := inOrder (Table.keys ix.ofPackage)

/-- How many fragments there are. -/
def size (ix : Index) : Nat := ix.fragments.length

/-- How many fragments each kind has. -/
def kindCounts (ix : Index) : List (Kind × Nat) := Kind.all.map fun k => (k, (ix.byKind k).length)

/-- How many fragments carry a vector. -/
def embeddedCount (ix : Index) : Nat := ix.fragments.countP (·.isEmbedded)

/-- How many dependencies are recorded. -/
def edgeCount (ix : Index) : Nat := ix.references.foldl (fun n r => n + r.2.length) 0

/-! ## 4. Vectors -/

/-- Attaches a vector to the fragment of an id, and counts it; an unknown id is left aside. -/
def attach (state : Index × Nat) (entry : String × List Float) : Index × Nat :=
  let (ix, n) := state
  match Table.get? entry.1 ix.place with
  | some i => ({ ix with fragments := ix.fragments.modify i fun f => { f with embedding := some entry.2 } }, n + 1)
  | none => (ix, n)

/-- Attaches vectors to the fragments of their ids; the number says how many were attached. -/
def attachAll (ix : Index) (vectors : Table String (List Float)) : Index × Nat := vectors.foldl attach (ix, 0)

end Index

end FragmentSearch
