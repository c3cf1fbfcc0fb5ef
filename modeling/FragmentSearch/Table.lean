/-!
# Tables

A table is a finite map whose entries stand in the order in which their keys were first entered. Entering
a key again changes its value and not its place.
-/

namespace FragmentSearch

/-- A finite map in order of entry. -/
abbrev Table (κ ν : Type) := List (κ × ν)

namespace Table

variable {κ ν : Type} [DecidableEq κ]

/-- The value of a key. -/
def get? (k : κ) : Table κ ν → Option ν
  | [] => none
  | (j, v) :: r => if j = k then some v else get? k r

/-- Changes the value of a key, or enters it at the end; `f` is given the value so far. -/
def adjust (k : κ) (f : Option ν → ν) : Table κ ν → Table κ ν
  | [] => [(k, f none)]
  | (j, v) :: r => if j = k then (j, f (some v)) :: r else (j, v) :: adjust k f r

/-- Enters a value under a key. -/
def put (k : κ) (v : ν) (t : Table κ ν) : Table κ ν := adjust k (fun _ => v) t

/-- The keys in order of entry. -/
def keys (t : Table κ ν) : List κ := t.map (·.1)

/-- Adds to the list that stands under a key. -/
def file (k : κ) (v : ν) (t : Table κ (List ν)) : Table κ (List ν) :=
  adjust k (fun old => old.getD [] ++ [v]) t

/-- The table of a list of entries, the last value given for a key counting. -/
def ofList (entries : List (κ × ν)) : Table κ ν := entries.foldl (fun t e => put e.1 e.2 t) []

/-! ## 1. What stands under a key -/

theorem get?_adjust (j k : κ) (f : Option ν → ν) (t : Table κ ν) :
    get? j (adjust k f t) = if k = j then some (f (get? k t)) else get? j t := by
  induction t with
  | nil => by_cases h : k = j <;> simp [adjust, get?, h]
  | cons e r ih =>
    obtain ⟨i, v⟩ := e
    by_cases hik : i = k
    · subst hik
      by_cases hij : i = j <;> simp [adjust, get?, hij]
    · by_cases hij : i = j
      · subst hij
        have : ¬ k = i := fun h => hik h.symm
        simp [adjust, get?, hik, this]
      · simp only [adjust, hik, if_false, get?, hij, ih]

theorem get?_put (j k : κ) (v : ν) (t : Table κ ν) :
    get? j (put k v t) = if k = j then some v else get? j t := get?_adjust j k _ t

end Table

end FragmentSearch
