/-!
# Similarities

How similar a term and a name are, and the angle between two vectors. Both rest on functions that come
with a library; here a library is given, and only what is made of its functions is defined.
-/

namespace FragmentSearch

/-- The functions that come with a library. -/
structure Library where
  /-- The similarity of two texts, between 0 and 1. -/
  textSimilarity : String → String → Float
  /-- The sum of the products of corresponding components. -/
  dot : List Float → List Float → Float
  /-- The length of a vector. -/
  norm : List Float → Float

namespace Library

variable (lib : Library)

/-- The similarity of a query term and a name; an empty text is similar to nothing. -/
def nameSimilarity (term name : String) : Float :=
  if term.isEmpty || name.isEmpty then 0 else lib.textSimilarity term name

/-- The cosine of the angle between two vectors; a vector without length is similar to nothing. -/
def cosine (a b : List Float) : Float :=
  if lib.norm a == 0 || lib.norm b == 0 then 0 else lib.dot a b / (lib.norm a * lib.norm b)

end Library

/-- Two vectors cannot be compared. -/
structure DimensionMismatch where
  left : Nat
  right : Nat

/-- The report of a mismatch. -/
def DimensionMismatch.message (e : DimensionMismatch) : String :=
  "Vector dimensions differ: (" ++ toString e.left ++ ",) vs (" ++ toString e.right ++ ",)"

/-- The cosine similarity of two vectors that must have the same dimension. -/
def Library.cosine? (lib : Library) (a b : List Float) : Except DimensionMismatch Float :=
  if a.length = b.length then .ok (lib.cosine a b) else .error ⟨a.length, b.length⟩

end FragmentSearch
