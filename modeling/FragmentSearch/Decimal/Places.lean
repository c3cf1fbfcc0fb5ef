import FragmentSearch.Decimal.Shortest

/-!
# A fixed number of digits

Numbers with a fixed count of decimal places (`fixed`), with a fixed count of digits after the first one
(`scientific`), rounded to a count of places (`round`), and integers in groups of three (`grouped`).
Rounding is exact on the binary value, a half goes to the even neighbour.
-/

namespace FragmentSearch.Decimal

/-- `num / den` in units of `10^-places`, rounded. -/
def inUnits (num den places : Nat) : Nat := roundDiv (num * Nat.pow 10 places) den

/-- Digits filled up with zeros at the front. -/
def padZeros (width : Nat) (ds : List Char) : List Char := List.replicate (width - ds.length) '0' ++ ds

/-- The text of a number with `places` decimal places. -/
def fixed (places : Nat) (x : Float) : String :=
  match Binary.ofFloat x with
  | .notANumber => "nan"
  | .infinite negative => if negative then "-inf" else "inf"
  | .finite negative m q =>
    let (num, den) := fractionOf m q
    let ds := padZeros (places + 1) (digitsOf (inUnits num den places))
    let (whole, rest) := ds.splitAt (ds.length - places)
    String.ofList ((if negative then ['-'] else []) ++ whole ++ (if places = 0 then [] else '.' :: rest))

/-- The digits of a positive `num / den`, one before the point and `places` after it, with the decimal
exponent of the first. Rounding up to a power of ten moves the exponent. -/
def leadingDigits (num den places : Nat) : Nat × Int :=
  let p := decimalExponent num den
  let e := p - places
  let c := if 0 ≤ e then roundDiv num (den * Nat.pow 10 e.toNat) else roundDiv (num * Nat.pow 10 (-e).toNat) den
  if c = Nat.pow 10 (places + 1) then (Nat.pow 10 places, p + 1) else (c, p)

/-- The text of a number with one digit before the point, `places` after it, and an exponent. -/
def scientific (places : Nat) (x : Float) : String :=
  match Binary.ofFloat x with
  | .notANumber => "nan"
  | .infinite negative => if negative then "-inf" else "inf"
  | .finite negative m q =>
    let (num, den) := fractionOf m q
    let (c, p) := if m = 0 then (0, 0) else leadingDigits num den places
    let ds := padZeros (places + 1) (digitsOf c)
    String.ofList ((if negative then ['-'] else []) ++ ds.take 1 ++ '.' :: ds.drop 1 ++ exponentText p)

/-- The number nearest to `x` rounded to `places` decimal places. -/
def round (places : Nat) (x : Float) : Float :=
  match Binary.ofFloat x with
  | .finite negative m q =>
    let (num, den) := fractionOf m q
    nearest negative (inUnits num den places) (Nat.pow 10 places)
  | _ => x

/-- Digits in groups of three, counted from the end; given and returned in reverse. -/
def groupReversed : List Char → List Char
  | a :: b :: c :: d :: r => a :: b :: c :: ',' :: groupReversed (d :: r)
  | ds => ds

/-- An integer with commas between groups of three digits. -/
def grouped (i : Int) : String :=
  let ds := (groupReversed (digitsOf i.natAbs).reverse).reverse
  String.ofList (if i < 0 then '-' :: ds else ds)

end FragmentSearch.Decimal
