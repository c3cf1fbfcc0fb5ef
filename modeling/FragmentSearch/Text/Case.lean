import FragmentSearch.Text.Class
import FragmentSearch.Text.CaseTable

/-!
# Letter case

Full case mapping: one character may become several, and a capital sigma at the end of a word becomes
the final small sigma.
-/

namespace FragmentSearch.Text

/-! ## 1. The tables, read once -/

/-- Lower-case images above ASCII. -/
def lowerRuns : Runs := Runs.ofTable Table.lower

/-- Upper-case images above ASCII. -/
def upperRuns : Runs := Runs.ofTable Table.upper

/-- Capital letters above ASCII. -/
def uppercaseSpans : Spans := Spans.ofTable Table.uppercase

/-- Cased letters above ASCII. -/
def casedSpans : Spans := Spans.ofTable Table.cased

/-- Case-ignorable characters above ASCII. -/
def caseIgnorableSpans : Spans := Spans.ofTable Table.caseIgnorable

/-! ## 2. One character -/

/-- Capital letters of any script. -/
def isUppercase (c : Char) : Bool :=
  if c.toNat < 128 then c.isUpper else uppercaseSpans.contains c.toNat

/-- The lower-case image of a character, its neighbours left aside. -/
def lowerChar (c : Char) : List Char :=
  if c.toNat < 128 then [c.toLower]
  else match lowerRuns.image? c.toNat with
    | some codes => codes.map Char.ofNat
    | none => [c]

/-- The upper-case image of a character. -/
def upperChar (c : Char) : List Char :=
  if c.toNat < 128 then [c.toUpper]
  else match upperRuns.image? c.toNat with
    | some codes => codes.map Char.ofNat
    | none => [c]

/-- Letters that have a case. -/
def isCased (c : Char) : Bool :=
  if c.toNat < 128 then c.isAlpha else casedSpans.contains c.toNat

/-- Characters that do not end a word as far as the final sigma is concerned. -/
def isCaseIgnorable (c : Char) : Bool :=
  if c.toNat < 128 then c = '\'' || c = '.' || c = ':' || c = '^' || c.toNat = 96
  else caseIgnorableSpans.contains c.toNat

/-! ## 3. Texts -/

/-- The capital sigma. -/
def capitalSigma : Char := 'Σ'

/-- Does the nearest character that is not ignorable exist and have a case? -/
def nextIsCased (s : List Char) : Bool :=
  match s.dropWhile isCaseIgnorable with
  | [] => false
  | c :: _ => isCased c

/-- Lower-cases the rest of a text; `before` is the part already read, last character first. -/
def lowerFrom (before : List Char) : List Char → List Char
  | [] => []
  | c :: r =>
    let image :=
      if c = capitalSigma then
        if nextIsCased before && !nextIsCased r then ['ς'] else ['σ']
      else lowerChar c
    image ++ lowerFrom (c :: before) r

/-- The lower-case form of a text. -/
def lower (s : String) : String := String.ofList (lowerFrom [] s.toList)

/-- The upper-case form of a text. -/
def upper (s : String) : String := String.ofList (s.toList.flatMap upperChar)

end FragmentSearch.Text
