/-!
# Similar texts

The Jaro-Winkler similarity of two texts: equal characters near each other, less half of those out of
order, with a premium on a common beginning.
-/

namespace FragmentSearch

/-! ## 1. Matching characters -/

/-- How far apart two equal characters may stand and still match. -/
def matchWindow (m n : Nat) : Nat := max m n / 2 - 1

/-- Marks the first free place with character `c` between `low` and `high`; `i` is the place of the head. -/
def occupy? (c : Char) (low high : Nat) : Nat → List (Char × Bool) → Option (List (Char × Bool))
  | _, [] => none
  | i, (d, used) :: r =>
    if high < i then none
    else if low ≤ i ∧ d = c ∧ used = false then some ((d, true) :: r)
    else (occupy? c low high (i + 1) r).map ((d, used) :: ·)

/-- The characters of the first name that find a match, and the second name with the matched places
marked; `i` is the place of the head of the first name. -/
def matchFrom (w : Nat) : Nat → List Char → List (Char × Bool) → List Char × List (Char × Bool)
  | _, [], places => ([], places)
  | i, c :: r, places =>
    match occupy? c (i - w) (i + w) 0 places with
    | some marked =>
      let (found, last) := matchFrom w (i + 1) r marked
      (c :: found, last)
    | none => matchFrom w (i + 1) r places

/-- The matching characters of two names, each in its own order. -/
def matching (a b : List Char) : List Char × List Char :=
  let (found, places) := matchFrom (matchWindow a.length b.length) 0 a (b.map (·, false))
  (found, (places.filter (·.2)).map (·.1))

/-- In how many places two lists differ. -/
def differences : List Char → List Char → Nat
  | c :: r, d :: s => differences r s + (if c = d then 0 else 1)
  | _, _ => 0

/-- The length of the common beginning of two names, as far as it counts. -/
def commonStart : Nat → List Char → List Char → Nat
  | n + 1, c :: r, d :: s => if c = d then commonStart n r s + 1 else 0
  | _, _, _ => 0

/-! ## 2. The measure -/

/-- A common beginning counts up to this length. -/
def maxCommonStart : Nat := 4

/-- The similarity before the premium. -/
def baseSimilarity (a b : List Char) : Float :=
  let (found, partners) := matching a b
  if found.isEmpty then 0
  else
    let m := found.length
    let t := differences found partners / 2
    (m.toFloat / a.length.toFloat + m.toFloat / b.length.toFloat + (m - t).toFloat / m.toFloat) / 3

/-- The similarity of two texts, between 0 and 1. -/
def jaroWinkler (s t : String) : Float :=
  let a := s.toList
  let b := t.toList
  let base := baseSimilarity a b
  if base > 0.7 then
    let raised := base + (commonStart maxCommonStart a b).toFloat * 0.1 * (1 - base)
    if raised < 1 then raised else 1
  else base

end FragmentSearch
