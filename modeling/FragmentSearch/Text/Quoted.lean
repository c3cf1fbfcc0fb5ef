import FragmentSearch.Text.Class

/-!
# Quoted texts

A text is shown between single quotes, or between double quotes if it holds a single quote and no
double one. Backslashes, the quote itself and all that is not printable are escaped.

Texts are lists of code points here, so that lone surrogates have a quoted form too.
-/

namespace FragmentSearch.Text

/-! ## 1. Numbers in hexadecimal -/

/-- A digit below sixteen. -/
def hexDigit (n : Nat) : Char := if n < 10 then Char.ofNat (48 + n) else Char.ofNat (87 + n)

/-- The last `width` hexadecimal digits of `n`. -/
def hexDigits : Nat → Nat → List Char
  | 0, _ => []
  | width + 1, n => hexDigits width (n / 16) ++ [hexDigit (n % 16)]

/-! ## 2. Escapes -/

/-- The escape of a code point that is not printable: the shortest numeric form that holds it, or one
of the three short names. -/
def escapeCode (code : Nat) : List Char :=
  if code = 9 then ['\\', 't']
  else if code = 10 then ['\\', 'n']
  else if code = 13 then ['\\', 'r']
  else if code < 0x100 then '\\' :: 'x' :: hexDigits 2 code
  else if code < 0x10000 then '\\' :: 'u' :: hexDigits 4 code
  else '\\' :: 'U' :: hexDigits 8 code

/-- One code point between quotes `quote`. -/
def quoteCode (quote : Char) (code : Nat) : List Char :=
  if code = quote.toNat ∨ code = '\\'.toNat then ['\\', Char.ofNat code]
  else if isPrintable code then [Char.ofNat code]
  else escapeCode code

/-- The quote that a text is put between. -/
def quoteFor (codes : List Nat) : Char :=
  if codes.contains '\''.toNat && !codes.contains '"'.toNat then '"' else '\''

/-- A text between quotes. -/
def quotedCodes (codes : List Nat) : List Char :=
  let quote := quoteFor codes
  quote :: codes.flatMap (quoteCode quote) ++ [quote]

/-- A text between quotes. -/
def quoted (s : String) : String := String.ofList (quotedCodes (s.toList.map Char.toNat))

/-- One byte between quotes `quote`: only printable ASCII is shown as it is. -/
def quoteByte (quote : Char) (b : Nat) : List Char :=
  if b = quote.toNat ∨ b = '\\'.toNat then ['\\', Char.ofNat b]
  else if 32 ≤ b ∧ b ≤ 126 then [Char.ofNat b]
  else escapeCode b

/-- Bytes between quotes, after their mark. -/
def quotedBytes (bytes : List Nat) : List Char :=
  let quote := quoteFor bytes
  'b' :: quote :: bytes.flatMap (quoteByte quote) ++ [quote]

end FragmentSearch.Text
