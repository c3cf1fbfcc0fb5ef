import FragmentSearch.Similarity.Library
import FragmentSearch.Similarity.Name

/-!
# The library that runs

The Jaro-Winkler similarity of texts, and the Euclidean length of vectors. Nothing that is said of the
rankings depends on this choice.
-/

namespace FragmentSearch

/-- The sum of the products of corresponding components. -/
def sumOfProducts (a b : List Float) : Float := (List.zipWith (· * ·) a b).foldl (· + ·) 0

/-- The library with which the program runs. -/
def Library.standard : Library where
  textSimilarity := jaroWinkler
  dot := sumOfProducts
  norm := fun a => (sumOfProducts a a).sqrt

end FragmentSearch
