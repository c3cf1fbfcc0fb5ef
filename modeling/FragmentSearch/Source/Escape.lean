import FragmentSearch.Source.Token
import FragmentSearch.Text.Runs

/-!
# What a quoted literal denotes

The escapes of text and byte literals. A backslash before any other character stands for itself, as it
does at the end of a piece. Numeric escapes of letters need all their digits.
-/

namespace FragmentSearch.Source

open FragmentSearch.Text

/-! ## 1. Single escapes -/

/-- Is the character an octal digit? -/
def isOctalDigit (c : Char) : Bool := '0' ≤ c && c ≤ '7'

/-- The code that a one-letter escape denotes. -/
def letterEscape? (c : Char) : Option Nat :=
  if c = '\\' ∨ c = '\'' ∨ c = '"' then some c.toNat
  else if c = 'a' then some 7
  else if c = 'b' then some 8
  else if c = 't' then some 9
  else if c = 'n' then some 10
  else if c = 'v' then some 11
  else if c = 'f' then some 12
  else if c = 'r' then some 13
  else none

/-- The number that exactly `width` hexadecimal digits write. -/
def hexExactly? (width : Nat) (s : List Char) : Option Nat :=
  let ds := s.take width
  if ds.length = width && ds.all (fun c => (hexDigit? c).isSome) then some (takeHex 0 ds).1 else none

/-- The number that up to three octal digits write, and how many there are. -/
def octal (s : List Char) : Nat × Nat :=
  let ds := (s.take 3).takeWhile isOctalDigit
  (ds.foldl (fun n c => n * 8 + (c.toNat - '0'.toNat)) 0, ds.length)

/-- What an escape denotes and how many characters after the backslash it takes. `named` looks up
characters by name. -/
def textEscape? (named : List Char → Option Nat) : List Char → Option (List Nat × Nat)
  | [] => some (['\\'.toNat], 0)
  | c :: r =>
    match letterEscape? c with
    | some code => some ([code], 1)
    | none =>
      if c = '\n' then some ([], 1)
      else if isOctalDigit c then
        let (code, width) := octal (c :: r)
        some ([code], width)
      else if c = 'x' then (hexExactly? 2 r).map fun code => ([code], 3)
      else if c = 'u' then (hexExactly? 4 r).map fun code => ([code], 5)
      else if c = 'U' then
        match hexExactly? 8 r with
        | some code => if code ≤ 0x10ffff then some ([code], 9) else none
        | none => none
      else if c = 'N' then
        match r with
        | '\x7b' :: r' =>
          let name := r'.takeWhile (· ≠ '\x7d')
          if name.length < r'.length then (named name).map fun code => ([code], name.length + 3) else none
        | _ => none
      else some (['\\'.toNat, c.toNat], 1)

/-- What an escape denotes in a byte literal. -/
def byteEscape? : List Char → Option (List Nat × Nat)
  | [] => some (['\\'.toNat], 0)
  | c :: r =>
    match letterEscape? c with
    | some code => some ([code], 1)
    | none =>
      if c = '\n' then some ([], 1)
      else if isOctalDigit c then
        let (code, width) := octal (c :: r)
        some ([code % 256], width)
      else if c = 'x' then (hexExactly? 2 r).map fun code => ([code], 3)
      else some (['\\'.toNat, c.toNat], 1)

/-! ## 2. Whole literals -/

/-- Decodes a literal with the given reading of escapes; `skip` counts characters that belong to the
last escape. -/
def decode (escape? : List Char → Option (List Nat × Nat)) (skip : Nat) : List Char → Option (List Nat)
  | [] => some []
  | c :: r =>
    if 0 < skip then decode escape? (skip - 1) r
    else if c = '\\' then
      match escape? r with
      | some (codes, width) => (decode escape? width r).map (codes ++ ·)
      | none => none
    else (decode escape? 0 r).map (c.toNat :: ·)

/-- The code points of a piece of text. -/
def textCodes? (named : List Char → Option Nat) (raw : Bool) (s : List Char) : Option (List Nat) :=
  if raw then some (s.map Char.toNat) else decode (textEscape? named) 0 s

/-- The bytes of a byte literal, which holds ASCII characters only. -/
def byteValues? (raw : Bool) (s : List Char) : Option (List Nat) :=
  if s.any (128 ≤ ·.toNat) then none
  else if raw then some (s.map Char.toNat) else decode byteEscape? 0 s

end FragmentSearch.Source
