import FragmentSearch.Source.Escape
import FragmentSearch.Source.Lexer
import FragmentSearch.Source.Tree

/-!
# Format strings

A format string alternates texts and fields in braces. A field holds an expression, optionally a sign
of equality (its own text is then shown too), a conversion mark and a format, which is a format string
again, one level deep. Expressions hold neither backslashes nor number signs.

The reading of expressions is a parameter: `expression?` gets the characters of a field.
-/

namespace FragmentSearch.Source

/-! ## 1. Finding the pieces -/

/-- Where the scan of a text stands with respect to escapes, whose braces are not fields. -/
inductive EscapeState where
  | plain | afterBackslash | afterNameMark | insideName

/-- The text up to the next field or the end. In the outermost text (`nested` false) a doubled brace
stands for one: the text then ends after it and the flag is set; a single closing brace is refused.
`acc` holds the text so far, last character first. -/
def scanText (raw nested : Bool) (state : EscapeState) (acc : List Char) :
    List Char → Option (List Char × Bool × List Char)
  | [] => some (acc.reverse, false, [])
  | c :: r =>
    match state with
    | .afterNameMark => scanText raw nested (if c = '\x7b' then .insideName else .plain) (c :: acc) r
    | .insideName => scanText raw nested (if c = '\x7d' then .plain else .insideName) (c :: acc) r
    | .afterBackslash =>
      if c = 'N' then scanText raw nested .afterNameMark (c :: acc) r
      else if c = '\x7b' ∨ c = '\x7d' then
        if nested then some (acc.reverse, false, c :: r)
        else if r.head? = some c then some ((c :: acc).reverse, true, r.drop 1)
        else if c = '\x7d' then none
        else some (acc.reverse, false, c :: r)
      else scanText raw nested .plain (c :: acc) r
    | .plain =>
      if c = '\\' ∧ !raw then scanText raw nested .afterBackslash (c :: acc) r
      else if c = '\x7b' ∨ c = '\x7d' then
        if nested then some (acc.reverse, false, c :: r)
        else if r.head? = some c then some ((c :: acc).reverse, true, r.drop 1)
        else if c = '\x7d' then none
        else some (acc.reverse, false, c :: r)
      else scanText raw nested .plain (c :: acc) r

/-- A literal inside an expression: its quote, and whether it is tripled. -/
abbrev OpenQuote := Option (Char × Bool)

/-- The characters of an expression up to the mark that ends it, which stays in the rest. `awaited`
holds the closing brackets that are awaited, `skip` counts characters that are already understood. -/
def scanExpression (quote : OpenQuote) (awaited : List Char) (skip : Nat) (acc : List Char) :
    List Char → Option (List Char × List Char)
  | [] => none
  | c :: r =>
    if 0 < skip then scanExpression quote awaited (skip - 1) (c :: acc) r
    else if c = '\\' then none
    else match quote with
      | some (q, tripled) =>
        if c ≠ q then scanExpression quote awaited 0 (c :: acc) r
        else if !tripled then scanExpression none awaited 0 (c :: acc) r
        else if r.take 2 = [q, q] then scanExpression none awaited 2 (c :: acc) r
        else scanExpression quote awaited 0 (c :: acc) r
      | none =>
        if c = '"' ∨ c = '\'' then
          if r.take 2 = [c, c] then scanExpression (some (c, true)) awaited 2 (c :: acc) r
          else scanExpression (some (c, false)) awaited 0 (c :: acc) r
        else if c = '#' then none
        else if c = '(' ∨ c = '[' ∨ c = '\x7b' then
          let closing := if c = '(' then ')' else if c = '[' then ']' else '\x7d'
          if awaited.length < maxBrackets then scanExpression none (closing :: awaited) 0 (c :: acc) r else none
        else if awaited.isEmpty && (c = '!' || c = '=' || c = '<' || c = '>') && r.head? = some '=' then
          scanExpression none awaited 1 (c :: acc) r
        else if awaited.isEmpty && (c = '!' || c = ':' || c = '\x7d' || c = '=') then some (acc.reverse, c :: r)
        else if c = ')' ∨ c = ']' ∨ c = '\x7d' then
          match awaited with
          | d :: below => if c = d then scanExpression none below 0 (c :: acc) r else none
          | [] => none
        else scanExpression none awaited 0 (c :: acc) r

/-! ## 2. Pieces -/

/-- A piece of a format string. -/
inductive Piece where
  | text (codes : List Nat)
  | value (e : Expr)

/-- Blanks as they count around the expression of a field. -/
def isFieldBlank (c : Char) : Bool := c = ' ' || c = '\t' || c = '\n' || c = '\x0c'

/-- Blanks as they count after the sign of equality. -/
def isShownBlank (c : Char) : Bool := (9 ≤ c.toNat && c.toNat ≤ 13) || c = ' '

/-- The text that a sign of equality shows: the expression, the sign and the blanks after it. -/
def scanShown (expression : List Char) : List Char → Option (List Char) × List Char
  | '=' :: r =>
    let blanks := r.takeWhile isShownBlank
    (some (expression ++ '=' :: blanks), r.dropWhile isShownBlank)
  | r => (none, r)

/-- The conversion mark of a field: nothing, or one of three letters. -/
def scanConversion : List Char → Option (Option Char × List Char)
  | '!' :: c :: r => if c = 's' ∨ c = 'r' ∨ c = 'a' then some (some c, r) else none
  | '!' :: [] => none
  | r => some (none, r)

/-- Adjacent texts become one, empty ones vanish. -/
def joinPieces : List Piece → List Expr
  | [] => []
  | .value e :: r => e :: joinPieces r
  | .text codes :: r =>
    match codes, joinPieces r with
    | [], rest => rest
    | codes, .constant (.text more _) :: rest => .constant (.text (codes ++ more) false) :: rest
    | codes, rest => .constant (.text codes false) :: rest

/-- The pieces of a format string and what follows them: nothing on the outermost level, the closing
brace of the field inside a format. The fuel bounds the number of pieces. -/
def piecesFrom (named : List Char → Option Nat) (expression? : List Char → Option Expr) (raw : Bool) :
    Nat → Nat → List Char → Option (List Piece × List Char)
  | 0, _, _ => none
  | fuel + 1, level, s => do
    let (text, doubled, rest) ← scanText raw (level ≠ 0) .plain [] s
    let codes ← textCodes? named raw text
    if doubled then
      let (more, rest) ← piecesFrom named expression? raw fuel level rest
      return (.text codes :: more, rest)
    match rest with
    | '\x7b' :: rest =>
      if 2 ≤ level then none
      let (source, rest) ← scanExpression none [] 0 [] rest
      if source.all isFieldBlank then none
      let value ← expression? source
      let (shown, rest) := scanShown source rest
      let (conversion, rest) ← scanConversion rest
      let (format, rest) ← match rest with
        | ':' :: rest =>
          (piecesFrom named expression? raw fuel (level + 1) rest).map fun (ps, rest) =>
            (some (Expr.joined (joinPieces ps)), rest)
        | rest => some (none, rest)
      match rest with
      | '\x7d' :: rest =>
        let conversion := if shown.isSome && format.isNone && conversion.isNone then some 'r' else conversion
        let (more, rest) ← piecesFrom named expression? raw fuel level rest
        return (.text codes :: .text ((shown.getD []).map Char.toNat) ::
          .value (.formatted value conversion format) :: more, rest)
      | _ => none
    | rest => return ([.text codes], rest)

/-- The pieces of a whole format string. -/
def pieces? (named : List Char → Option Nat) (expression? : List Char → Option Expr) (raw : Bool)
    (s : List Char) : Option (List Piece) :=
  match piecesFrom named expression? raw (s.length + 1) 0 s with
  | some (ps, []) => some ps
  | _ => none

/-! ## 3. Adjacent literals -/

/-- The pieces of one literal that is not made of bytes. -/
def literalPieces? (named : List Char → Option Nat) (expression? : List Char → Option Expr) (l : Literal) :
    Option (List Piece) :=
  if l.format then pieces? named expression? l.raw l.body
  else (textCodes? named l.raw l.body).map fun codes => [.text codes]

/-- The text of pieces that hold no value. -/
def pieceCodes : List Piece → List Nat
  | [] => []
  | .text codes :: r => codes ++ pieceCodes r
  | .value _ :: r => pieceCodes r

/-- Adjacent literals denote one value: bytes if all are bytes, a format string if one of them is, a
text otherwise. The first one decides about the mark of the text. -/
def joinLiterals? (named : List Char → Option Nat) (expression? : List Char → Option Expr)
    (ls : List Literal) : Option Expr :=
  if ls.all (·.bytes) then
    (ls.mapM fun l => byteValues? l.raw l.body).map fun vs => .constant (.bytes vs.flatten)
  else if ls.any (·.bytes) then none
  else (ls.mapM (literalPieces? named expression?)).map fun ps =>
    if ls.any (·.format) then .joined (joinPieces ps.flatten)
    else .constant (.text (pieceCodes ps.flatten) (ls.head?.any (·.unicode)))

end FragmentSearch.Source
