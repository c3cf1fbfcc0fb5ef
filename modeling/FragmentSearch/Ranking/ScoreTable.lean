import FragmentSearch.Fragment.Basic

/-!
# Scores and score tables

A ranking works on a score table: one entry for each id, in the order in which the ids were first entered.
The result is the best part of the table, entries of equal score staying in their order.

The arithmetic of scores is kept abstract, so that the same definitions run on floating point numbers and
can be read over an exact field.
-/

namespace FragmentSearch

/-! ## 1. The arithmetic of scores -/

/-- The operations that scores need. -/
class Score (α : Type) extends Add α, Sub α, Mul α, Div α, LT α, NatCast α, OfScientific α where
  decideLt : (a b : α) → Decidable (a < b)

instance instDecidableScoreLt {α : Type} [Score α] (a b : α) : Decidable (a < b) := Score.decideLt a b

instance instScoreFloat : Score Float where
  natCast := Float.ofNat
  decideLt := fun _ _ => inferInstance

/-- What a ranking is given from outside: the similarity of a term and a name, and the logarithm of a
count. -/
structure Yardstick (α : Type) where
  similarity : String → String → α
  logarithm : Nat → α

/-! ## 2. Tables -/

/-- A fragment and its score. -/
structure Scored (α : Type) where
  fragment : Fragment
  score : α

/-- Scores in the order in which the ids were first entered. -/
abbrev ScoreTable (α : Type) := List (Scored α)

namespace ScoreTable

variable {α : Type}

/-- Changes the score of the entry with the id of `f`, or enters `f`; `g` is given the score so far. The
fragment that was entered first is kept. -/
def adjust (f : Fragment) (g : Option α → α) : ScoreTable α → ScoreTable α
  | [] => [⟨f, g none⟩]
  | e :: r =>
    if e.fragment.id = f.id then { e with score := g (some e.score) } :: r
    else e :: adjust f g r

/-- Enters a fragment with a score. -/
def put (f : Fragment) (s : α) (t : ScoreTable α) : ScoreTable α := adjust f (fun _ => s) t

variable [Score α]

/-- The entries by decreasing score, equal scores in their order. -/
def sorted (t : ScoreTable α) : ScoreTable α := t.mergeSort fun a b => !(decide (a.score < b.score))

/-- The best entries of a table, at most `limit` of them. -/
def best (limit : Int) (t : ScoreTable α) : ScoreTable α := (sorted t).take limit.toNat

end ScoreTable

end FragmentSearch
