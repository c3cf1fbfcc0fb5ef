import FragmentSearch.Decimal.Binary

/-!
# The shortest decimal

A finite number is written with the fewest digits that read back as the same number, and among those
with the digits nearest to it. `shortest` finds the digits, `plain` writes them: positionally from
`10^-4` up to `10^16`, otherwise with an exponent of at least two digits.
-/

namespace FragmentSearch.Decimal

/-! ## 1. Finding the digits -/

/-- The positive number `num / den` with the half-open distances to its neighbours: all fractions
between `low / den` and `high / den` read back as the number, the ends themselves if `closed`. -/
structure Neighbourhood where
  num : Nat
  low : Nat
  high : Nat
  den : Nat
  closed : Bool

/-- The neighbourhood of `m · 2^q`. Below a power of two the lower neighbour is nearer by half. -/
def Neighbourhood.of (m : Nat) (q : Int) : Neighbourhood :=
  let below := if m = Nat.pow 2 52 ∧ q ≠ -1074 then 1 else 2
  let (scale, den) := if 2 ≤ q then (Nat.pow 2 (q - 2).toNat, 1) else (1, Nat.pow 2 (2 - q).toNat)
  ⟨4 * m * scale, (4 * m - below) * scale, (4 * m + 2) * scale, den, m % 2 = 0⟩

/-- Does `c · 10^e` read back as the number? -/
def Neighbourhood.holds (n : Neighbourhood) (c : Nat) (e : Int) : Bool :=
  let (left, right) := if 0 ≤ e then (c * Nat.pow 10 e.toNat * n.den, 1) else (c * n.den, Nat.pow 10 (-e).toNat)
  if n.closed then n.low * right ≤ left && left ≤ n.high * right
  else n.low * right < left && left < n.high * right

/-- The exponent `p` with `10^p ≤ num / den < 10^(p+1)`, searched downward from `p`; the fuel covers
the exponents of all finite numbers. -/
def decimalExponentFrom (num den : Nat) : Nat → Int → Int
  | 0, p => p
  | fuel + 1, p =>
    let reached := if 0 ≤ p then Nat.pow 10 p.toNat * den ≤ num else den ≤ num * Nat.pow 10 (-p).toNat
    if reached then p else decimalExponentFrom num den fuel (p - 1)

/-- The exponent `p` with `10^p ≤ num / den < 10^(p+1)`. -/
def decimalExponent (num den : Nat) : Int :=
  let guess : Int := ((num.log2 : Int) - den.log2 + 1) * 30103 / 100000 + 1
  decimalExponentFrom num den 8 guess

/-- The two multiples of `10^e` around the number, the nearer one first (a tie: the even one first). -/
def Neighbourhood.candidates (n : Neighbourhood) (e : Int) : Nat × Nat :=
  let (num, den) := if 0 ≤ e then (n.num, n.den * Nat.pow 10 e.toNat) else (n.num * Nat.pow 10 (-e).toNat, n.den)
  let near := roundDiv num den
  let floor := num / den
  (near, if near = floor then floor + 1 else floor)

/-- Tries `n` digits, then more, up to seventeen. -/
def shortestFrom (n : Neighbourhood) (p : Int) : Nat → Nat → Nat × Int
  | 0, digits => ((n.candidates (p + 1 - digits)).1, p + 1 - digits)
  | fuel + 1, digits =>
    let e := p + 1 - digits
    let (first, second) := n.candidates e
    if n.holds first e then (first, e)
    else if n.holds second e then (second, e)
    else shortestFrom n p fuel (digits + 1)

/-- Digits and exponent of the shortest decimal of `m · 2^q`, for positive `m`. -/
def shortest (m : Nat) (q : Int) : Nat × Int :=
  let n := Neighbourhood.of m q
  shortestFrom n (decimalExponent n.num n.den) 16 1

/-! ## 2. Writing them -/

/-- The decimal digits of a natural number. -/
def digitsOf (n : Nat) : List Char := Nat.toDigits 10 n

/-- Without zeros at the end. -/
def dropTrailingZeros (ds : List Char) : List Char := (ds.reverse.dropWhile (· = '0')).reverse

/-- An exponent with its sign and at least two digits. -/
def exponentText (e : Int) : List Char :=
  let ds := digitsOf e.natAbs
  'e' :: (if e < 0 then '-' else '+') :: (if ds.length < 2 then '0' :: ds else ds)

/-- The text of digits whose point stands after the first `point` of them. -/
def positional (ds : List Char) (point : Int) : List Char :=
  if point ≤ 0 then '0' :: '.' :: List.replicate (-point).toNat '0' ++ ds
  else if point < ds.length then ds.take point.toNat ++ '.' :: ds.drop point.toNat
  else ds ++ List.replicate (point.toNat - ds.length) '0' ++ ['.', '0']

/-- The text of digits with an exponent. -/
def exponential (ds : List Char) (point : Int) : List Char :=
  (match ds with
    | [d] => [d]
    | d :: rest => d :: '.' :: rest
    | [] => []) ++ exponentText (point - 1)

/-- The plain text of a number. -/
def plain (x : Float) : String :=
  match Binary.ofFloat x with
  | .notANumber => "nan"
  | .infinite negative => if negative then "-inf" else "inf"
  | .finite negative m q =>
    let body :=
      if m = 0 then ['0', '.', '0']
      else
        let (c, e) := shortest m q
        let all := digitsOf c
        let point : Int := all.length + e
        let ds := dropTrailingZeros all
        if -4 < point ∧ point ≤ 16 then positional ds point else exponential ds point
    String.ofList (if negative then '-' :: body else body)

end FragmentSearch.Decimal
