import FragmentSearch.Json.Basic
import FragmentSearch.Decimal.Shortest
import FragmentSearch.Text.Quoted

/-!
# Writing JSON

Values are written in ASCII: whatever lies outside the printable ASCII characters is escaped, a code
point beyond the first plane as a pair of surrogates. `render` writes on one line, `renderIndented`
gives every item and field a line of its own.
-/

namespace FragmentSearch.Json

open FragmentSearch.Text

/-! ## 1. Texts and numbers -/

/-- A numeric escape. -/
def unicodeEscape (code : Nat) : List Char := '\\' :: 'u' :: hexDigits 4 code

/-- One character of a text. -/
def escapeChar (c : Char) : List Char :=
  if c = '"' then ['\\', '"']
  else if c = '\\' then ['\\', '\\']
  else if c = '\n' then ['\\', 'n']
  else if c = '\r' then ['\\', 'r']
  else if c = '\t' then ['\\', 't']
  else if c.toNat = 12 then ['\\', 'f']
  else if c.toNat = 8 then ['\\', 'b']
  else if 32 ≤ c.toNat ∧ c.toNat ≤ 126 then [c]
  else if c.toNat < 0x10000 then unicodeEscape c.toNat
  else
    let v := c.toNat - 0x10000
    unicodeEscape (0xd800 + v / 1024) ++ unicodeEscape (0xdc00 + v % 1024)

/-- A text between double quotes. -/
def renderText (s : String) : List Char := '"' :: s.toList.flatMap escapeChar ++ ['"']

/-- A floating point number; the three that are no numbers have names. -/
def renderFloat (x : Float) : List Char :=
  match Decimal.Binary.ofFloat x with
  | .notANumber => "NaN".toList
  | .infinite negative => (if negative then "-Infinity" else "Infinity").toList
  | .finite _ _ _ => (Decimal.plain x).toList

/-- An integer. -/
def renderInt (i : Int) : List Char :=
  if i < 0 then '-' :: Decimal.digitsOf i.natAbs else Decimal.digitsOf i.natAbs

/-! ## 2. Values -/

/-- What stands between parts: `open'` after an opening bracket at depth `d`, `between` after a comma,
`close` before a closing bracket. -/
structure Layout where
  opening : Nat → List Char
  between : Nat → List Char
  closing : Nat → List Char

/-- Everything on one line, a blank after a comma. -/
def Layout.oneLine : Layout := ⟨fun _ => [], fun _ => [' '], fun _ => []⟩

/-- A line feed and two blanks for each level. -/
def lineBreak (depth : Nat) : List Char := '\n' :: List.replicate (2 * depth) ' '

/-- Every part on a line of its own. -/
def Layout.indented : Layout := ⟨fun d => lineBreak (d + 1), fun d => lineBreak (d + 1), lineBreak⟩

mutual

/-- A value at depth `d`. -/
def renderAt (l : Layout) (d : Nat) : Json → List Char
  | .null => "null".toList
  | .bool b => (if b then "true" else "false").toList
  | .int i => renderInt i
  | .float x => renderFloat x
  | .text s => renderText s
  | .list [] => ['[', ']']
  | .list (v :: vs) =>
    '[' :: l.opening d ++ renderAt l (d + 1) v ++ renderItems l d vs ++ l.closing d ++ [']']
  | .object [] => ['\x7b', '\x7d']
  | .object ((n, v) :: fs) =>
    '\x7b' :: l.opening d ++ renderText n ++ [':', ' '] ++ renderAt l (d + 1) v ++ renderFields l d fs ++
      l.closing d ++ ['\x7d']

/-- The items after the first. -/
def renderItems (l : Layout) (d : Nat) : List Json → List Char
  | [] => []
  | v :: vs => ',' :: l.between d ++ renderAt l (d + 1) v ++ renderItems l d vs

/-- The fields after the first. -/
def renderFields (l : Layout) (d : Nat) : List (String × Json) → List Char
  | [] => []
  | (n, v) :: fs =>
    ',' :: l.between d ++ renderText n ++ [':', ' '] ++ renderAt l (d + 1) v ++ renderFields l d fs

end

/-- A value on one line. -/
def render (v : Json) : String := String.ofList (renderAt .oneLine 0 v)

/-- A value with a line for every part. -/
def renderIndented (v : Json) : String := String.ofList (renderAt .indented 0 v)

end FragmentSearch.Json
