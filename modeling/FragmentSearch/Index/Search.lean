import FragmentSearch.Index.Graph

/-!
# Searching by token

The words of a text are looked up among the tokens. A fragment counts one hit for each word that is one of
its tokens, a repeated word counting again, and more hits come first.
-/

namespace FragmentSearch

open FragmentSearch.Text

/-- The terms of a query: its words in lower case. -/
def queryTerms (query : String) : List String := words (lower query)

namespace Index

/-- Counts a hit for every id that has the term among its tokens. -/
def countHits (ix : Index) (hits : Table String Nat) (term : String) : Table String Nat :=
  (inOrder ((Table.get? term ix.postings).getD [])).foldl
    (fun hits id => Table.adjust id (fun n => n.getD 0 + 1) hits) hits

/-- The hits of a query, in the order in which they occurred. -/
def hits (ix : Index) (query : String) : Table String Nat := (queryTerms query).foldl ix.countHits []

/-- The fragments hit by a query, those with more hits first. -/
def search (ix : Index) (query : String) : List Fragment :=
  ix.getAll (((ix.hits query).mergeSort fun a b => b.2 ≤ a.2).map (·.1))

end Index

end FragmentSearch
