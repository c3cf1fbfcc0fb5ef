import FragmentSearch.Decimal.Binary
import FragmentSearch.Text.Quoted

/-!
# Reading numbers

Integers and floating point numbers as a person writes them: blanks around them, a sign, underscores
between digits, decimal digits of any script.
-/

namespace FragmentSearch.Decimal

open FragmentSearch.Text

/-! ## 1. Common form -/

/-- Blanks around numbers; unlike words, numbers are not separated by the ASCII information separators. -/
def isNumberBlank (c : Char) : Bool :=
  if c.toNat < 128 then (9 ≤ c.toNat && c.toNat ≤ 13) || c = ' ' else isBlank c

/-- Digits of any script as ASCII digits. -/
def asciiDigit (c : Char) : Char :=
  match digitValue? c with
  | some d => Char.ofNat (48 + d)
  | none => c

/-- A text without blanks at its ends and with ASCII digits. -/
def numeral (s : String) : List Char :=
  let body := s.toList.dropWhile isNumberBlank
  ((body.reverse.dropWhile isNumberBlank).reverse).map asciiDigit

/-- Takes the underscores out if each stands between two digits; `before` says whether the character
before was a digit. -/
def dropUnderscores (before : Bool) : List Char → Option (List Char)
  | [] => some []
  | '_' :: c :: r =>
    if before && c.isDigit then (dropUnderscores true r).map (c :: ·) else none
  | ['_'] => none
  | c :: r => (dropUnderscores c.isDigit r).map (c :: ·)

/-- Splits off a sign; true for a minus. -/
def takeSign : List Char → Bool × List Char
  | '-' :: r => (true, r)
  | '+' :: r => (false, r)
  | r => (false, r)

/-- The number that decimal digits write, continued from `acc`. -/
def digitsValue (acc : Nat) (ds : List Char) : Nat :=
  ds.foldl (fun n c => 10 * n + (c.toNat - '0'.toNat)) acc

/-! ## 2. Integers -/

/-- The most digits that an integer may be read from. -/
def maxIntegerDigits : Nat := 4300

/-- Why a text is no integer. -/
inductive IntegerError where
  | malformed
  | tooLong (digits : Nat)
  deriving DecidableEq

/-- Reads an integer. -/
def readInt (s : String) : Except IntegerError Int :=
  let (negative, body) := takeSign (numeral s)
  match dropUnderscores false body with
  | none => .error .malformed
  | some ds =>
    if ds.isEmpty || !ds.all Char.isDigit then .error .malformed
    else if maxIntegerDigits < ds.length then .error (.tooLong ds.length)
    else
      let n : Int := digitsValue 0 ds
      .ok (if negative then -n else n)

/-! ## 3. Floating point numbers -/

/-- Reads an exponent part, or nothing. -/
def readExponent? : List Char → Option Int
  | [] => some 0
  | c :: r =>
    if c = 'e' ∨ c = 'E' then
      let (negative, ds) := takeSign r
      if ds.isEmpty || !ds.all Char.isDigit then none
      else
        let n : Int := digitsValue 0 ds
        some (if negative then -n else n)
    else none

/-- Reads digits with an optional point and an optional exponent. -/
def readUnsigned? (negative : Bool) (s : List Char) : Option Float :=
  let whole := s.takeWhile Char.isDigit
  let rest := s.dropWhile Char.isDigit
  let (places, rest) := match rest with
    | '.' :: r => (r.takeWhile Char.isDigit, r.dropWhile Char.isDigit)
    | r => ([], r)
  if whole.isEmpty && places.isEmpty then none
  else (readExponent? rest).map fun e =>
    ofDecimal negative (digitsValue 0 (whole ++ places)) (e - places.length)

/-- Reads a floating point number. -/
def readFloat? (s : String) : Option Float :=
  match dropUnderscores false (numeral s) with
  | none => none
  | some body =>
    let (negative, body) := takeSign body
    let word := String.ofList (body.map Char.toLower)
    if word = "inf" ∨ word = "infinity" then some (if negative then -infinity else infinity)
    else if word = "nan" then some notANumber
    else readUnsigned? negative body

end FragmentSearch.Decimal
