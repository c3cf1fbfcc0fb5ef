import FragmentSearch.Text.Runs
import FragmentSearch.Text.NameTable

/-!
# Names and their composed form

Which characters begin and continue a name, and the normal form in which names are compared: every
character is replaced by its full compatibility decomposition, marks are put into canonical order, and
what has a canonical composition is composed again. ASCII names are their own normal form.
-/

namespace FragmentSearch.Text

/-! ## 1. The tables, read once -/

/-- Characters above ASCII that may begin a name. -/
def nameStartSpans : Spans := Spans.ofTable Table.nameStart

/-- Characters above ASCII that may continue a name. -/
def nameContinueSpans : Spans := Spans.ofTable Table.nameContinue

/-- Compatibility decompositions. -/
@[irreducible]
def decompositionRuns : Runs := Runs.ofTable Table.decomposition

/-- Combining classes. -/
@[irreducible]
def combiningRuns : Runs := Runs.ofTable Table.combiningClass

/-- Canonical pairs with their composition. -/
@[irreducible]
def compositionPairs : List (Nat × Nat × Nat) :=
  (tableWords Table.composition).filterMap fun w =>
    match takeHex 0 w with
    | (a, '.' :: r) => match takeHex 0 r with
      | (b, '>' :: r) => some (a, b, (takeHex 0 r).1)
      | _ => none
    | _ => none

/-! ## 2. Characters of names -/

/-- May the character begin a name? -/
def isNameStart (c : Char) : Bool :=
  if c.toNat < 128 then c = '_' || c.isAlpha else nameStartSpans.contains c.toNat

/-- May the character continue a name? -/
def isNameContinue (c : Char) : Bool :=
  if c.toNat < 128 then c = '_' || c.isAlphanum else nameContinueSpans.contains c.toNat

/-- Is the text a name? -/
def isName : List Char → Bool
  | [] => false
  | c :: r => isNameStart c && r.all isNameContinue

/-! ## 3. Decomposition -/

/-- Hangul syllables decompose by arithmetic: 19 leading, 21 middle and 27 closing letters. -/
def decomposeHangul (code : Nat) : List Nat :=
  let i := code - 0xac00
  let head := [0x1100 + i / 588, 0x1161 + i % 588 / 28]
  if i % 28 = 0 then head else head ++ [0x11a7 + i % 28]

/-- The full compatibility decomposition of a code point. -/
def decompose (code : Nat) : List Nat :=
  if 0xac00 ≤ code ∧ code ≤ 0xd7a3 then decomposeHangul code
  else (decompositionRuns.image? code).getD [code]

/-- The canonical combining class; zero for letters. -/
def combiningClass (code : Nat) : Nat :=
  match combiningRuns.run? code with
  | some r => r.image.headD 0
  | none => 0

/-- Moves a mark in front of the marks of a higher class at the end of the text read so far
(which is given last code point first). -/
def placeMark (code cls : Nat) : List Nat → List Nat
  | [] => [code]
  | d :: r =>
    if cls ≠ 0 ∧ cls < combiningClass d then d :: placeMark code cls r
    else code :: d :: r

/-- Canonical order of marks. -/
def orderMarks (codes : List Nat) : List Nat :=
  (codes.foldl (fun acc code => placeMark code (combiningClass code) acc) []).reverse

/-! ## 4. Composition -/

/-- The composition of a pair. -/
def composePair? (a b : Nat) : Option Nat :=
  if 0x1100 ≤ a ∧ a < 0x1113 ∧ 0x1161 ≤ b ∧ b < 0x1176 then
    some (0xac00 + ((a - 0x1100) * 21 + (b - 0x1161)) * 28)
  else if 0xac00 ≤ a ∧ a ≤ 0xd7a3 ∧ (a - 0xac00) % 28 = 0 ∧ 0x11a8 ≤ b ∧ b < 0x11c3 then
    some (a + (b - 0x11a7))
  else (compositionPairs.find? fun p => p.1 = a && p.2.1 = b).map fun p => p.2.2

/-- Composes the codes after a starter. `starter` is the last code of class zero, `marks` what stands
after it and did not compose, last first. A code composes with the starter unless a mark of the same or
a higher class stands between them. -/
def composeFrom (starter : Nat) (marks : List Nat) : List Nat → List Nat
  | [] => starter :: marks.reverse
  | code :: r =>
    let cls := combiningClass code
    let blocked := match marks with
      | [] => false
      | m :: _ => cls ≤ combiningClass m
    match (if blocked then none else composePair? starter code) with
    | some composed => composeFrom composed marks r
    | none =>
      if cls = 0 then (starter :: marks.reverse) ++ composeFrom code [] r
      else composeFrom starter (code :: marks) r

/-- Composes a text: codes in front of the first starter stay as they are. -/
def compose : List Nat → List Nat
  | [] => []
  | code :: r => if combiningClass code = 0 then composeFrom code [] r else code :: compose r

/-- The normal form of a name. -/
def normalName (name : List Char) : List Char :=
  if name.all (·.toNat < 128) then name
  else (compose (orderMarks (name.flatMap fun c => decompose c.toNat))).map Char.ofNat

end FragmentSearch.Text
