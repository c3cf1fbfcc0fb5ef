import FragmentSearch.Source.Token
import FragmentSearch.Decimal.Reading
import FragmentSearch.Text.Name

/-!
# Cutting source into lexemes

`tokens?` cuts a source text into tokens, or finds that it cannot be cut. Line ends of all three kinds
count alike, a missing one at the end is supplied. Inside brackets line ends and indentation mean
nothing; a backslash at the end of a line joins it to the next.

Each scanner takes the characters that remain and gives what it has read together with the rest.
-/

namespace FragmentSearch.Source

open FragmentSearch.Text FragmentSearch.Decimal

/-! ## 1. Line ends -/

/-- Every line end as a line feed. -/
def unifyLineEnds : List Char → List Char
  | '\r' :: '\n' :: r => '\n' :: unifyLineEnds r
  | '\r' :: r => '\n' :: unifyLineEnds r
  | c :: r => c :: unifyLineEnds r
  | [] => []

/-- A text that ends with a line feed. -/
def closeLastLine (s : List Char) : List Char := if s.getLast? = some '\n' then s else s ++ ['\n']

/-- The number of line feeds in a text. -/
def lineFeeds (s : List Char) : Nat := s.count '\n'

/-! ## 2. Numbers -/

/-- Can the character stand in a name, as far as one can tell without the tables? -/
def isNameLike (c : Char) : Bool := c = '_' || c.isAlphanum || 128 ≤ c.toNat

/-- Digits with single underscores between them, without the underscores. -/
def digitRun (isDigit : Char → Bool) (acc : List Char) : List Char → Option (List Char × List Char)
  | [] => some (acc.reverse, [])
  | c :: r =>
    if isDigit c then digitRun isDigit (c :: acc) r
    else if c = '_' then
      match r with
      | d :: _ => if isDigit d then digitRun isDigit acc r else none
      | [] => none
    else some (acc.reverse, c :: r)

/-- Keywords that may follow a number without a blank between. -/
def wordsAfterNumber : List String := ["and", "else", "for", "if", "in", "is", "not", "or"]

/-- A number must not run into a name, unless one of the keywords begins there. -/
def endsNumber (rest : List Char) : Bool :=
  match rest with
  | [] => true
  | c :: _ => !isNameLike c || wordsAfterNumber.any fun w => w.toList.isPrefixOf rest

/-- The value of digits in a base. -/
def valueInBase (base : Nat) (ds : List Char) : Nat :=
  ds.foldl (fun n d => n * base + (hexDigit? d).getD 0) 0

/-- A number with the mark of its base in front. -/
def scanBased (base : Nat) (isDigit : Char → Bool) (s : List Char) : Option (Number × List Char) :=
  match digitRun isDigit [] s with
  | some (d :: ds, rest) => if endsNumber rest then some (.integer (valueInBase base (d :: ds)), rest) else none
  | _ => none

/-- The exponent of a number: nothing, or its value and the rest; none if it is broken off. -/
def scanExponent? : List Char → Option (Option Int × List Char)
  | [] => some (none, [])
  | c :: r =>
    if c = 'e' ∨ c = 'E' then
      match r with
      | d :: ds =>
        if d = '+' ∨ d = '-' then
          match ds with
          | x :: _ => if x.isDigit then (digitRun Char.isDigit [] ds).map fun (e, rest) =>
              (some (if d = '-' then -(digitsValue 0 e : Int) else digitsValue 0 e), rest) else none
          | [] => none
        else if d.isDigit then (digitRun Char.isDigit [] r).map fun (e, rest) => (some (digitsValue 0 e : Int), rest)
        else some (none, c :: r)
      | [] => some (none, c :: r)
    else some (none, c :: r)

/-- The part of a decimal number after `whole`. -/
def scanDecimalTail (whole : List Char) (s : List Char) : Option (Number × List Char) := do
  let (point, places, s) ← match s with
    | '.' :: d :: r =>
      if d.isDigit then (digitRun Char.isDigit [] (d :: r)).map fun (ds, rest) => (true, ds, rest)
      else some (true, [], d :: r)
    | ['.'] => some (true, [], [])
    | s => some (false, [], s)
  let (exponent, s) ← scanExponent? s
  let value := ofDecimal false (digitsValue 0 (whole ++ places)) (exponent.getD 0 - places.length)
  match s with
  | c :: r =>
    if c = 'j' ∨ c = 'J' then
      if endsNumber r then return (.imaginary value, r) else none
    else if !endsNumber s then none
    else if point || exponent.isSome then return (.real value, s)
    else if whole.head? = some '0' && whole.any (· ≠ '0') then none
    else if maxIntegerDigits < whole.length then none
    else return (.integer (digitsValue 0 whole), s)
  | [] => none

/-- A number that begins with a digit or with a point before a digit. -/
def scanNumber : List Char → Option (Number × List Char)
  | '.' :: r => scanDecimalTail [] ('.' :: r)
  | '0' :: b :: r =>
    if b = 'x' ∨ b = 'X' then scanBased 16 (fun c => (hexDigit? c).isSome) r
    else if b = 'o' ∨ b = 'O' then
      scanBased 8 (fun c => '0' ≤ c && c ≤ '7') r
    else if b = 'b' ∨ b = 'B' then scanBased 2 (fun c => c = '0' || c = '1') r
    else do
      let (whole, rest) ← digitRun Char.isDigit [] ('0' :: b :: r)
      scanDecimalTail whole rest
  | s => do
    let (whole, rest) ← digitRun Char.isDigit [] s
    scanDecimalTail whole rest

/-! ## 3. Quoted literals -/

/-- The literal marks that letters in front of a quote make, if they make any. -/
def literalMarks? (letters : List Char) : Option Literal :=
  let marks := letters.map Char.toLower
  let known := [[], ['b'], ['r'], ['u'], ['f'], ['b', 'r'], ['r', 'b'], ['f', 'r'], ['r', 'f']]
  if known.contains marks then
    some ⟨marks.contains 'r', marks.contains 'b', marks.contains 'f', letters = ['u'], []⟩
  else none

/-- Splits off the marks in front of a quote. -/
def takeLiteralMarks? (s : List Char) : Option (Literal × List Char) :=
  let letters := (s.take 2).takeWhile fun c => c ≠ '"' && c ≠ '\''
  match s.drop letters.length with
  | c :: _ => if c = '"' ∨ c = '\'' then (literalMarks? letters).map (·, s.drop letters.length) else none
  | [] => none

/-- The body of a literal between single quotes `q`, up to the closing one. `escaped` tells that a
backslash stands in front; `acc` holds the body so far, last character first. -/
def shortBody (q : Char) (escaped : Bool) (acc : List Char) : List Char → Option (List Char × List Char)
  | [] => none
  | c :: r =>
    if escaped then shortBody q false (c :: acc) r
    else if c = q then some (acc.reverse, r)
    else if c = '\n' then none
    else shortBody q (c = '\\') (c :: acc) r

/-- The body of a literal between triple quotes. -/
def longBody (q : Char) (escaped : Bool) (acc : List Char) : List Char → Option (List Char × List Char)
  | [] => none
  | c :: r =>
    if escaped then longBody q false (c :: acc) r
    else if c = q && r.take 2 = [q, q] then some (acc.reverse, r.drop 2)
    else longBody q (c = '\\') (c :: acc) r

/-- The body of a literal, from its opening quote on. -/
def scanBody : List Char → Option (List Char × List Char)
  | q :: r => if r.take 2 = [q, q] then longBody q false [] (r.drop 2) else shortBody q false [] r
  | [] => none

/-! ## 4. Names and operators -/

/-- A name or a keyword; keywords are recognised as they are written, names by their normal form. -/
def scanName (s : List Char) : Option (Lexeme × List Char) :=
  let word := s.takeWhile isNameLike
  let rest := s.dropWhile isNameLike
  let text := String.ofList word
  if keywordList.contains text then some (.keyword text, rest)
  else if isName word then some (.name (String.ofList (normalName word)), rest)
  else none

/-- The longest operator at the front. -/
def scanOperator (s : List Char) : Option (String × List Char) :=
  (operators.find? fun o => o.toList.isPrefixOf s).map fun o => (o, s.drop o.length)

/-- One lexeme other than the marks of layout. -/
def scanLexeme (s : List Char) : Option (Lexeme × List Char) :=
  match takeLiteralMarks? s with
  | some (marks, r) => (scanBody r).map fun (body, rest) => (.literal { marks with body := body }, rest)
  | none =>
    match s with
    | [] => none
    | c :: r =>
      if c.isDigit || (c = '.' && (r.head?.any Char.isDigit)) then
        (scanNumber s).map fun (n, rest) => (.number n, rest)
      else if isNameLike c then scanName s
      else (scanOperator s).map fun (o, rest) => (.op o, rest)

/-! ## 5. Indentation -/

/-- The width of the blanks at the front of a line: with tabs to multiples of eight, and with tabs as
single blanks. Both must agree on every comparison, so that tabs and blanks are not mixed. -/
structure Indentation where
  wide : Nat
  narrow : Nat
  deriving DecidableEq

/-- Reads the indentation of a line. A form feed starts it anew; a backslash joins the next line, the
blanks in front of the first backslash then counting. Gives the lines joined and the rest. -/
def scanIndentation (at_ : Indentation) (joined : Option Nat) (lines : Nat) :
    List Char → Option (Indentation × Nat × List Char)
  | ' ' :: r => scanIndentation ⟨at_.wide + 1, at_.narrow + 1⟩ joined lines r
  | '\t' :: r => scanIndentation ⟨(at_.wide / 8 + 1) * 8, at_.narrow + 1⟩ joined lines r
  | '\x0c' :: r => scanIndentation ⟨0, 0⟩ joined lines r
  | ['\\', '\n'] => none
  | '\\' :: '\n' :: r =>
    let first := match joined with
      | some 0 => at_.wide
      | some k => k
      | none => at_.wide
    scanIndentation at_ (some first) (lines + 1) r
  | '\\' :: _ => none
  | r => match joined with
    | some 0 => some (at_, lines, r)
    | some k => some (⟨k, k⟩, lines, r)
    | none => some (at_, lines, r)

/-- The most levels of indentation. -/
def maxIndents : Nat := 100

/-- The most brackets that may be open at once. -/
def maxBrackets : Nat := 200

/-- The levels left open when a line of indentation `i` begins after the levels `stack` (innermost
first), and the marks to emit. None if the indentation fits nowhere. -/
def adjustIndents (i : Indentation) : List Indentation → Option (List Indentation × List Lexeme)
  | [] => none
  | top :: below =>
    if i.wide = top.wide then (if i.narrow = top.narrow then some (top :: below, []) else none)
    else if top.wide < i.wide then
      if top.narrow < i.narrow ∧ below.length + 2 < maxIndents then some (i :: top :: below, [.indent]) else none
    else (adjustIndents i below).bind fun (stack, marks) =>
      match marks with
      | .indent :: _ => none
      | _ => some (stack, .dedent :: marks)

/-! ## 6. The whole text -/

/-- What the lexer carries along. -/
structure LexState where
  line : Nat
  /-- Closing brackets that are awaited, innermost first. -/
  brackets : List String
  indents : List Indentation

/-- The closing bracket of an opening one. -/
def closing? (o : String) : Option String :=
  if o = "(" then some ")" else if o = "[" then some "]" else if o = "\x7b" then some "\x7d" else none

/-- The brackets awaited after an operator; none if it closes the wrong one. -/
def nextBrackets? (o : String) (awaited : List String) : Option (List String) :=
  match closing? o with
  | some c => if awaited.length < maxBrackets then some (c :: awaited) else none
  | none =>
    if o = ")" ∨ o = "]" ∨ o = "\x7d" then
      match awaited with
      | c :: r => if c = o then some r else none
      | [] => none
    else some awaited

/-- Without blanks inside a line. -/
def skipBlanks (s : List Char) : List Char := s.dropWhile fun c => c = ' ' || c = '\t' || c = '\x0c'

/-- Without a comment up to the end of the line. -/
def skipComment (s : List Char) : List Char :=
  match s with
  | '#' :: _ => s.dropWhile (· ≠ '\n')
  | _ => s

/-- The tokens from here on; `acc` holds those already read, last first. `atStart` tells that a line
begins, `blank` that it holds no lexeme that would count. Each step takes at least one character or
leaves the start of a line, which bounds the fuel by twice the length. -/
def tokensFrom : Nat → List Token → Bool → Bool → LexState → List Char → Option (List Token)
  | 0, _, _, _, _, _ => none
  | fuel + 1, acc, true, _, st, s =>
    match scanIndentation ⟨0, 0⟩ none 0 s with
    | none => none
    | some (i, joined, rest) =>
      let st := { st with line := st.line + joined }
      if rest.head? = some '#' || rest.head? = some '\n' then tokensFrom fuel acc false true st rest
      else if st.brackets.isEmpty then
        match adjustIndents i st.indents with
        | none => none
        | some (indents, marks) =>
          let acc := marks.foldl (fun acc m => ⟨m, st.line, st.line⟩ :: acc) acc
          tokensFrom fuel acc false false { st with indents := indents } rest
      else tokensFrom fuel acc false false st rest
  | fuel + 1, acc, false, blank, st, s =>
    match skipComment (skipBlanks s) with
    | [] => if st.brackets.isEmpty then some (⟨.endMarker, st.line, st.line⟩ :: acc).reverse else none
    | c :: r =>
      if c = '\n' then
        let next := { st with line := st.line + 1 }
        if blank || !st.brackets.isEmpty then tokensFrom fuel acc true false next r
        else tokensFrom fuel (⟨.newline, st.line, st.line⟩ :: acc) true false next r
      else if c = '\\' then
        match r with
        | '\n' :: d :: r' => tokensFrom fuel acc false blank { st with line := st.line + 1 } (d :: r')
        | _ => none
      else
        match scanLexeme (c :: r) with
        | none => none
        | some (lexeme, rest) =>
          let brackets? := match lexeme with
            | .op o => nextBrackets? o st.brackets
            | _ => some st.brackets
          let endLine := match lexeme with
            | .literal l => st.line + lineFeeds l.body
            | _ => st.line
          match brackets? with
          | none => none
          | some brackets =>
            tokensFrom fuel (⟨lexeme, st.line, endLine⟩ :: acc) false blank
              { st with brackets := brackets, line := endLine } rest

/-- The tokens of a source text. -/
def tokens? (s : List Char) : Option (List Token) :=
  let text := closeLastLine (unifyLineEnds s)
  tokensFrom (2 * text.length + 2) [] true false ⟨1, [], [⟨0, 0⟩]⟩ text

end FragmentSearch.Source
