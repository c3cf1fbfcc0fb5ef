/-!
# Floating point numbers as fractions

A finite floating point number is `± m · 2^q` with natural `m` and integer `q`. `Binary.ofFloat` takes
a number apart, `nearest` finds the number that is nearest to a fraction, a tie going to the even
neighbour. All arithmetic in between is exact.
-/

namespace FragmentSearch.Decimal

/-! ## 1. Rounding a quotient -/

/-- `num / den` rounded to the nearest natural number, a half to the even one. -/
def roundDiv (num den : Nat) : Nat :=
  let q := num / den
  let r := num % den
  if 2 * r < den then q
  else if den < 2 * r then q + 1
  else if q % 2 = 0 then q else q + 1

/-! ## 2. Taking a number apart -/

/-- What the bits of a number say. -/
inductive Binary where
  | finite (negative : Bool) (m : Nat) (q : Int)
  | infinite (negative : Bool)
  | notANumber
  deriving Repr, DecidableEq

/-- The parts of a number. -/
def Binary.ofFloat (x : Float) : Binary :=
  let bits := x.toBits.toNat
  let negative := Nat.pow 2 63 ≤ bits
  let exponent : Nat := bits / Nat.pow 2 52 % Nat.pow 2 11
  let fraction : Nat := bits % Nat.pow 2 52
  if exponent = 2047 then (if fraction = 0 then .infinite negative else .notANumber)
  else if exponent = 0 then .finite negative fraction (-1074)
  else .finite negative (fraction + Nat.pow 2 52) ((exponent : Int) - 1075)

/-- The fraction `m · 2^q`. -/
def fractionOf (m : Nat) (q : Int) : Nat × Nat :=
  if 0 ≤ q then (m * Nat.pow 2 q.toNat, 1) else (m, Nat.pow 2 (-q).toNat)

/-! ## 3. The nearest number -/

/-- The exponent `k` with `2^k ≤ num / den < 2^(k+1)`. -/
def binaryExponent (num den : Nat) : Int :=
  let k : Int := (num.log2 : Int) - den.log2
  let (lo, hi) := if 0 ≤ k then (den * Nat.pow 2 k.toNat, num) else (den, num * Nat.pow 2 (-k).toNat)
  if lo ≤ hi then k else k - 1

/-- The bits of the positive number nearest to `num / den`; none beyond the largest number. -/
def nearestBits? (num den : Nat) : Option Nat :=
  if num = 0 then some 0
  else
    let q := max (binaryExponent num den - 52) (-1074)
    let m := if 0 ≤ q then roundDiv num (den * Nat.pow 2 q.toNat) else roundDiv (num * Nat.pow 2 (-q).toNat) den
    let bits := (q + 1074).toNat * Nat.pow 2 52 + m
    if bits < 2047 * Nat.pow 2 52 then some bits else none

/-- Positive infinity. -/
def infinity : Float := Float.ofBits 0x7ff0000000000000

/-- The number that is not a number. -/
def notANumber : Float := Float.ofBits 0x7ff8000000000000

/-- The number nearest to `± num / den`, infinite beyond the largest one. -/
def nearest (negative : Bool) (num den : Nat) : Float :=
  let x := match nearestBits? num den with
    | some bits => Float.ofBits bits.toUInt64
    | none => infinity
  if negative then -x else x

/-- The number nearest to an integer; none beyond the largest number. -/
def ofInt? (i : Int) : Option Float :=
  (nearestBits? i.natAbs 1).map fun bits =>
    let x := Float.ofBits bits.toUInt64
    if i < 0 then -x else x

/-- The integer part of a finite number, toward zero. -/
def truncate? (x : Float) : Option Int :=
  match Binary.ofFloat x with
  | .finite negative m q =>
    let (num, den) := fractionOf m q
    let n : Int := (num / den : Nat)
    some (if negative then -n else n)
  | _ => none

/-- The number nearest to `± digits · 10^exponent`. Exponents far outside the range are not expanded. -/
def ofDecimal (negative : Bool) (digits : Nat) (exponent : Int) : Float :=
  let size : Int := (Nat.toDigits 10 digits).length
  if digits = 0 ∨ size + exponent < -400 then nearest negative 0 1
  else if 400 < size + exponent then (if negative then -infinity else infinity)
  else if 0 ≤ exponent then nearest negative (digits * Nat.pow 10 exponent.toNat) 1
  else nearest negative digits (Nat.pow 10 (-exponent).toNat)

end FragmentSearch.Decimal
