/-!
# Tables of code points

Character properties are written down as texts: words in hexadecimal, separated by blanks.

* `a` and `a-b` are single code points and closed intervals (`Spans`),
* `a-b/s>t` sends `a`, `a + s`, …, `b` to `t`, `t + s`, …; `a>t.u` sends `a` to two code points (`Runs`).

The entries of a table are in increasing order and do not overlap, so a look-up halves the table.
-/

namespace FragmentSearch.Text

/-! ## 1. Reading words -/

/-- The value of a hexadecimal digit. -/
def hexDigit? (c : Char) : Option Nat :=
  if '0' ≤ c ∧ c ≤ '9' then some (c.toNat - '0'.toNat)
  else if 'a' ≤ c ∧ c ≤ 'f' then some (c.toNat - 'a'.toNat + 10)
  else if 'A' ≤ c ∧ c ≤ 'F' then some (c.toNat - 'A'.toNat + 10)
  else none

/-- The leading hexadecimal number of a text, continued from `acc`, and what follows it. -/
def takeHex (acc : Nat) : List Char → Nat × List Char
  | [] => (acc, [])
  | c :: r =>
    match hexDigit? c with
    | some d => takeHex (acc * 16 + d) r
    | none => (acc, c :: r)

/-- The words of a table. -/
def tableWords (s : String) : List (List Char) :=
  let step := fun (c : Char) (acc : List Char × List (List Char)) =>
    if c = ' ' ∨ c = '\n' then ([], if acc.1.isEmpty then acc.2 else acc.1 :: acc.2)
    else (c :: acc.1, acc.2)
  let (last, words) := s.toList.foldr step ([], [])
  if last.isEmpty then words else last :: words

/-! ## 2. Sets -/

/-- A set of code points: closed intervals in increasing order. -/
structure Spans where
  entries : Array (Nat × Nat)

namespace Spans

/-- Reads one interval. -/
def ofWord (w : List Char) : Nat × Nat :=
  match takeHex 0 w with
  | (a, '-' :: r) => (a, (takeHex 0 r).1)
  | (a, _) => (a, a)

/-- Reads a table of intervals. -/
def ofTable (s : String) : Spans := ⟨((tableWords s).map ofWord).toArray⟩

/-- Halving search between the positions `lo` and `hi`; the fuel bounds the number of halvings. -/
def search (t : Array (Nat × Nat)) (c : Nat) : Nat → Nat → Nat → Option Nat
  | 0, _, _ => none
  | fuel + 1, lo, hi =>
    if lo < hi then
      let mid := (lo + hi) / 2
      match t[mid]? with
      | none => none
      | some (a, b) =>
        if c < a then search t c fuel lo mid
        else if b < c then search t c fuel (mid + 1) hi
        else some (c - a)
    else none

/-- The distance of `c` from the start of the interval that holds it. -/
def offset? (s : Spans) (c : Nat) : Option Nat := search s.entries c (s.entries.size + 1) 0 s.entries.size

/-- Membership. -/
def contains (s : Spans) (c : Nat) : Bool := (s.offset? c).isSome

end Spans

/-! ## 3. Maps -/

/-- Code points `first`, `first + step`, …, `last` with the image of the first of them. -/
structure Run where
  first : Nat
  last : Nat
  step : Nat
  image : List Nat

/-- A map on code points: runs in increasing order. -/
structure Runs where
  entries : Array Run

namespace Runs

/-- Reads numbers that points separate; the fuel is the length of the text. -/
def readImage : Nat → List Char → List Nat
  | 0, _ => []
  | fuel + 1, s =>
    match takeHex 0 s with
    | (a, '.' :: r) => a :: readImage fuel r
    | (a, _) => [a]

/-- Reads one run. -/
def ofWord (w : List Char) : Run :=
  let (first, r) := takeHex 0 w
  let (last, r) := match r with
    | '-' :: r => takeHex 0 r
    | r => (first, r)
  let (step, r) := match r with
    | '/' :: r => takeHex 0 r
    | r => (1, r)
  ⟨first, last, step, readImage w.length (r.drop 1)⟩

/-- Reads a table of runs. -/
def ofTable (s : String) : Runs := ⟨((tableWords s).map ofWord).toArray⟩

/-- Halving search for the run around `c`. -/
def search (t : Array Run) (c : Nat) : Nat → Nat → Nat → Option Run
  | 0, _, _ => none
  | fuel + 1, lo, hi =>
    if lo < hi then
      let mid := (lo + hi) / 2
      match t[mid]? with
      | none => none
      | some r =>
        if c < r.first then search t c fuel lo mid
        else if r.last < c then search t c fuel (mid + 1) hi
        else some r
    else none

/-- The run around `c`. -/
def run? (m : Runs) (c : Nat) : Option Run := search m.entries c (m.entries.size + 1) 0 m.entries.size

/-- The image of `c`, if the map moves it. -/
def image? (m : Runs) (c : Nat) : Option (List Nat) :=
  match m.run? c with
  | none => none
  | some r =>
    if (c - r.first) % r.step = 0 then
      match r.image with
      | [t] => some [t + (c - r.first)]
      | ts => some ts
    else none

end Runs

end FragmentSearch.Text
