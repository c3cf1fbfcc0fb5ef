import FragmentSearch.Source.Tree
import FragmentSearch.Decimal.Shortest
import FragmentSearch.Decimal.Reading
import FragmentSearch.Text.Quoted

/-!
# Writing expressions

Expressions are written in one normal form: single blanks around operators, parentheses only where the
tree needs them, numbers by their value, texts between the quotes that need fewest escapes. The written
form is a list of code points; surrogates occur in it only as escapes.

Inside the fields of format strings no backslash may stand. A text that needs one cannot be written
there; that and an integer with too many digits are the two faults of writing.
-/

namespace FragmentSearch.Source

open FragmentSearch.Text FragmentSearch.Decimal

/-- A text as code points. -/
abbrev Codes := List Nat

/-- Why an expression cannot be written. -/
inductive PrintFault where
  | backslashInField
  | integerTooLong
  deriving DecidableEq

/-- The wording of a fault. -/
def PrintFault.message : PrintFault → String
  | .backslashInField => "Unable to avoid backslash in f-string expression part"
  | .integerTooLong =>
    "Exceeds the limit (4300 digits) for integer string conversion; use sys.set_int_max_str_digits() to increase the limit"

/-- What writing gives. -/
abbrev Printed := Except PrintFault Codes

/-- The code points of a text. -/
def codes (s : String) : Codes := s.toList.map Char.toNat

/-! ## 1. Precedence -/

/-- How tightly an expression binds; each level leaves out the parentheses that a looser one needs. -/
abbrev Precedence := Nat

namespace Precedence

def named : Precedence := 0
def tuple : Precedence := 1
def yield : Precedence := 2
def test : Precedence := 3
def or : Precedence := 4
def and : Precedence := 5
def not : Precedence := 6
def compare : Precedence := 7
def bitOr : Precedence := 8
def bitXor : Precedence := 9
def bitAnd : Precedence := 10
def shift : Precedence := 11
def arith : Precedence := 12
def term : Precedence := 13
def factor : Precedence := 14
def power : Precedence := 15
def await : Precedence := 16
def atom : Precedence := 17

/-- The next tighter level. -/
def next (p : Precedence) : Precedence := if p < atom then p + 1 else p

end Precedence

/-- Parentheses around a written expression of level `own` where level `outer` is asked for. -/
def parenthesize (own outer : Precedence) (s : Codes) : Codes :=
  if own < outer then codes "(" ++ s ++ codes ")" else s

/-- The sign and the level of a unary operator. -/
def UnaryOp.symbol : UnaryOp → String × Precedence
  | .plus => ("+", Precedence.factor)
  | .minus => ("-", Precedence.factor)
  | .invert => ("~", Precedence.factor)
  | .not => ("not ", Precedence.not)

/-- The sign and the level of a binary operator. -/
def BinaryOp.symbol : BinaryOp → String × Precedence
  | .add => ("+", Precedence.arith)
  | .sub => ("-", Precedence.arith)
  | .mul => ("*", Precedence.term)
  | .matMul => ("@", Precedence.term)
  | .div => ("/", Precedence.term)
  | .floorDiv => ("//", Precedence.term)
  | .mod => ("%", Precedence.term)
  | .pow => ("**", Precedence.power)
  | .shiftLeft => ("<<", Precedence.shift)
  | .shiftRight => (">>", Precedence.shift)
  | .bitOr => ("|", Precedence.bitOr)
  | .bitXor => ("^", Precedence.bitXor)
  | .bitAnd => ("&", Precedence.bitAnd)

/-- The sign of a comparison. -/
def CompareOp.symbol : CompareOp → String
  | .eq => "=="
  | .notEq => "!="
  | .lt => "<"
  | .ltE => "<="
  | .gt => ">"
  | .gtE => ">="
  | .is => "is"
  | .isNot => "is not"
  | .isIn => "in"
  | .notIn => "not in"

/-! ## 2. Quotes -/

/-- The quotes of literals, in the order of preference. -/
def allQuotes : List Codes := [codes "'", codes "\"", codes "\"\"\"", codes "'''"]

/-- Is the quote a tripled one? -/
def isTripled (q : Codes) : Bool := q.length = 3

/-- Does one list occur in another? -/
def occursInCodes (needle : Codes) : Codes → Bool
  | [] => needle.isEmpty
  | c :: r => needle.isPrefixOf (c :: r) || occursInCodes needle r

/-- One code point of a literal: backslashes and what is not printable are escaped, line feeds and tabs
only if `escapeBlanks`. -/
def escapeLiteralCode (escapeBlanks : Bool) (code : Nat) : Codes :=
  if !escapeBlanks && (code = 9 || code = 10) then [code]
  else if code = '\\'.toNat then codes "\\\\"
  else if isPrintable code then [code]
  else (escapeCode code).map Char.toNat

/-- The last element replaced by two. -/
def escapeLast (s : Codes) : Codes :=
  match s.getLast? with
  | some c => s.dropLast ++ ['\\'.toNat, c]
  | none => s

/-- The body of a literal and the quotes it may stand between, the best first. Quotes that occur in the
body are out of the question, a line feed asks for a tripled quote; if none is left, everything that a
quote needs is escaped. Quotes that differ from the last character are preferred. -/
def literalBody (s : Codes) (quotes : List Codes) (escapeBlanks : Bool) : Codes × List Codes :=
  let escaped := s.flatMap (escapeLiteralCode escapeBlanks)
  let possible := if escaped.contains 10 then quotes.filter isTripled else quotes
  let possible := possible.filter fun q => !occursInCodes q escaped
  if possible.isEmpty then
    let whole := (quotedCodes s).map Char.toNat
    let first := whole.head?.getD 39
    let quote := (quotes.find? fun q => q.contains first).getD [first]
    ((whole.drop 1).dropLast, [quote])
  else
    match escaped.getLast? with
    | none => (escaped, possible)
    | some last =>
      let sorted := possible.filter (fun q => q.head? ≠ some last) ++ possible.filter (fun q => q.head? = some last)
      if (sorted.head?.bind List.head?) = some last then (escapeLast escaped, sorted) else (escaped, sorted)

/-- A literal with as few backslashes as possible. -/
def sparingLiteral (s : Codes) : Codes :=
  let (body, quotes) := literalBody s allQuotes false
  let quote := quotes.headD []
  quote ++ body ++ quote

/-! ## 3. Constants -/

/-- A number that stands in source; what exceeds all numbers is written as a literal that does so too. -/
def sourceReal (x : Float) : Codes :=
  match Binary.ofFloat x with
  | .finite _ _ _ => codes (plain x)
  | _ => codes "1e309"

/-- The same for an imaginary part, whose integers have no fraction. -/
def sourceImaginary (x : Float) : Codes :=
  let ds := sourceReal x
  let ds := if (codes ".0").isSuffixOf ds then ds.take (ds.length - 2) else ds
  ds ++ codes "j"

/-- A constant; `sparing` asks for texts without backslashes. -/
def Constant.print (sparing : Bool) : Constant → Printed
  | .none => .ok (codes "None")
  | .bool b => .ok (codes (if b then "True" else "False"))
  | .ellipsis => .ok (codes "...")
  | .integer n =>
    let ds := digitsOf n
    if maxIntegerDigits < ds.length then .error .integerTooLong else .ok (ds.map Char.toNat)
  | .real x => .ok (sourceReal x)
  | .imaginary x => .ok (sourceImaginary x)
  | .text cs mark =>
    let body := if sparing then sparingLiteral cs else (quotedCodes cs).map Char.toNat
    .ok (if mark then codes "u" ++ body else body)
  | .bytes vs => .ok ((quotedBytes vs).map Char.toNat)

/-! ## 4. Format strings -/

/-- Braces in the text of a format string are doubled. -/
def doubleBraces (s : Codes) : Codes :=
  s.flatMap fun c => if c = 0x7b ∨ c = 0x7d then [c, c] else [c]

/-- The parts of a format string, each written between the quotes that all parts before allow. The flag
marks parts that are text. -/
def joinedBodies (quotes : List Codes) : List (Codes × Bool) → Option (List Codes × List Codes)
  | [] => some ([], quotes)
  | (part, isText) :: r =>
    let (body, possible) := literalBody part quotes isText
    if possible.any quotes.contains then
      (joinedBodies possible r).map fun (bodies, last) => (body :: bodies, last)
    else none

/-- The body of a text between tripled single quotes, with every escape that single quotes need. -/
def fallbackBody (part : Codes) : Codes :=
  let whole := (quotedCodes ('"'.toNat :: part)).map Char.toNat
  (whole.drop 2).dropLast

/-- A whole format string from its parts. -/
def joinedLiteral (parts : List (Codes × Bool)) : Codes :=
  match joinedBodies allQuotes parts with
  | some (bodies, quotes) =>
    let quote := quotes.headD []
    codes "f" ++ quote ++ bodies.flatten ++ quote
  | none => codes "f'''" ++ (parts.map fun (part, _) => fallbackBody part).flatten ++ codes "'''"

/-! ## 5. Expressions -/

/-- Written items with a separator between them. -/
def separated (sep : String) : List Codes → Codes
  | [] => []
  | [a] => a
  | a :: r => a ++ codes sep ++ separated sep r

/-- Written items of a tuple: one item alone has a comma after it. -/
def tupleItems : List Codes → Codes
  | [a] => a ++ codes ","
  | items => separated ", " items

/-- Is the value an integer, after which a point would be read as its fraction? -/
def isIntegerConstant : Expr → Bool
  | .constant (.integer _) => true
  | .constant (.bool _) => true
  | _ => false

/-- The parts of a parameter list, with the marks that divide it. `slash` tells that positional
parameters came before, `star` that what follows is named by the caller. -/
def divideParameters (slash star : Bool) : List (ParameterKind × Codes) → List Codes
  | [] => if slash then [codes "/"] else []
  | (kind, s) :: r =>
    match kind with
    | .positionalOnly => s :: divideParameters true star r
    | .ordinary => (if slash then [codes "/"] else []) ++ s :: divideParameters false star r
    | .rest => (if slash then [codes "/"] else []) ++ (codes "*" ++ s) :: divideParameters false true r
    | .keywordOnly =>
      (if slash then [codes "/"] else []) ++ (if star then [] else [codes "*"]) ++ s :: divideParameters false true r
    | .keywords => (if slash then [codes "/"] else []) ++ (codes "**" ++ s) :: divideParameters false star r

mutual

/-- An expression where level `p` is asked for; `sparing` as for constants. The field of a format
string is written with its braces, its expression without backslashes, and a blank keeps an opening brace
of the expression apart. -/
def Expr.print (sparing : Bool) (p : Precedence) : Expr → Printed
  | .name id => .ok (codes id)
  | .constant c => c.print sparing
  | .joined parts => do
    if sparing then
      let body ← printInside parts
      return codes "f" ++ sparingLiteral body
    else return joinedLiteral (← printParts parts)
  | .formatted value conversion format => do
    let v ← value.print true Precedence.test.next
    if v.contains '\\'.toNat then throw .backslashInField
    let blank := if v.head? = some 0x7b then codes " " else []
    let c := match conversion with
      | some c => ['!'.toNat, c.toNat]
      | none => []
    return codes "\x7b" ++ blank ++ v ++ c ++ (← printFormat format) ++ codes "\x7d"
  | .attribute value name => do
    let v ← value.print sparing Precedence.atom
    return v ++ codes (if isIntegerConstant value then " ." else ".") ++ codes name
  | .subscript value index => do
    let v ← value.print sparing Precedence.atom
    let i ← match index with
      | .tuple (e :: es) => do pure (tupleItems ((← e.print sparing Precedence.test) :: (← printAll sparing Precedence.test es)))
      | e => e.print sparing Precedence.test
    return v ++ codes "[" ++ i ++ codes "]"
  | .call function arguments keywords => do
    let f ← function.print sparing Precedence.atom
    let a ← printAll sparing Precedence.test arguments
    let k ← printKeywords sparing keywords
    return f ++ codes "(" ++ separated ", " (a ++ k) ++ codes ")"
  | .starred value => do return codes "*" ++ (← value.print sparing Precedence.bitOr)
  | .list items => do return codes "[" ++ separated ", " (← printAll sparing Precedence.test items) ++ codes "]"
  | .tuple items => do
    let s := tupleItems (← printAll sparing Precedence.test items)
    return if items.isEmpty || Precedence.tuple < p then codes "(" ++ s ++ codes ")" else s
  | .set items => do
    if items.isEmpty then return codes "\x7b*()\x7d"
    return codes "\x7b" ++ separated ", " (← printAll sparing Precedence.test items) ++ codes "\x7d"
  | .dict entries => do
    return codes "\x7b" ++ separated ", " (← printEntries sparing entries) ++ codes "\x7d"
  | .comprehension kind item clauses => do
    let (opening, closing) := match kind with
      | .list => ("[", "]")
      | .set => ("\x7b", "\x7d")
      | .generator => ("(", ")")
    let i ← item.print sparing Precedence.test
    return codes opening ++ i ++ (← printClauses sparing clauses) ++ codes closing
  | .dictComprehension key value clauses => do
    let k ← key.print sparing Precedence.test
    let v ← value.print sparing Precedence.test
    return codes "\x7b" ++ k ++ codes ": " ++ v ++ (← printClauses sparing clauses) ++ codes "\x7d"
  | .unary op operand => do
    let (symbol, own) := op.symbol
    return parenthesize own p (codes symbol ++ (← operand.print sparing own))
  | .binary op left right => do
    let (symbol, own) := op.symbol
    let (lp, rp) := if op = .pow then (own.next, own) else (own, own.next)
    let l ← left.print sparing lp
    let r ← right.print sparing rp
    return parenthesize own p (l ++ codes " " ++ codes symbol ++ codes " " ++ r)
  | .compare first rest => do
    let l ← first.print sparing Precedence.compare.next
    return parenthesize Precedence.compare p (l ++ (← printComparisons sparing rest))
  | .conjunction operands => do
    let s ← printTightening sparing Precedence.and operands
    return parenthesize Precedence.and p (separated " and " s)
  | .disjunction operands => do
    let s ← printTightening sparing Precedence.or operands
    return parenthesize Precedence.or p (separated " or " s)
  | .conditional test body otherwise => do
    let b ← body.print sparing Precedence.test.next
    let t ← test.print sparing Precedence.test.next
    let o ← otherwise.print sparing Precedence.test
    return parenthesize Precedence.test p (b ++ codes " if " ++ t ++ codes " else " ++ o)
  | .lambda parameters body => do
    let ps := separated ", " (divideParameters false false (← printParameters sparing parameters))
    let b ← body.print sparing Precedence.test
    return parenthesize Precedence.test p
      (codes "lambda" ++ (if ps.isEmpty then [] else codes " " ++ ps) ++ codes ": " ++ b)
  | .slice lower upper step => do
    let l ← printOption sparing lower
    let u ← printOption sparing upper
    let s ← match step with
      | some e => do pure (codes ":" ++ (← e.print sparing Precedence.test))
      | none => pure []
    return l ++ codes ":" ++ u ++ s
  | .assignment target value => do
    let t ← target.print sparing Precedence.atom
    let v ← value.print sparing Precedence.atom
    return parenthesize Precedence.named p (t ++ codes " := " ++ v)
  | .await value => do
    return parenthesize Precedence.await p (codes "await " ++ (← value.print sparing Precedence.atom))
  | .yield value => do
    let v ← match value with
      | some e => do pure (codes " " ++ (← e.print sparing Precedence.atom))
      | none => pure []
    return parenthesize Precedence.yield p (codes "yield" ++ v)
  | .yieldFrom value => do
    return parenthesize Precedence.yield p (codes "yield from " ++ (← value.print sparing Precedence.atom))

/-- Expressions at one level. -/
def printAll (sparing : Bool) (p : Precedence) : List Expr → Except PrintFault (List Codes)
  | [] => .ok []
  | e :: r => do return (← e.print sparing p) :: (← printAll sparing p r)

/-- Operands of which each binds one level tighter than the one before. -/
def printTightening (sparing : Bool) (p : Precedence) : List Expr → Except PrintFault (List Codes)
  | [] => .ok []
  | e :: r => do return (← e.print sparing p.next) :: (← printTightening sparing p.next r)

/-- An optional expression. -/
def printOption (sparing : Bool) : Option Expr → Printed
  | none => .ok []
  | some e => e.print sparing Precedence.test

/-- Named arguments. -/
def printKeywords (sparing : Bool) : List Keyword → Except PrintFault (List Codes)
  | [] => .ok []
  | .mk name value :: r => do
    let v ← value.print sparing Precedence.test
    let s := match name with
      | some n => codes n ++ codes "=" ++ v
      | none => codes "**" ++ v
    return s :: (← printKeywords sparing r)

/-- Entries of a dictionary. -/
def printEntries (sparing : Bool) : List Entry → Except PrintFault (List Codes)
  | [] => .ok []
  | .mk key value :: r => do
    let s ← match key with
      | some k => do
        let k ← k.print sparing Precedence.test
        pure (k ++ codes ": " ++ (← value.print sparing Precedence.test))
      | none => do pure (codes "**" ++ (← value.print sparing Precedence.bitOr))
    return s :: (← printEntries sparing r)

/-- Comparisons after the first operand. -/
def printComparisons (sparing : Bool) : List Comparison → Printed
  | [] => .ok []
  | .mk op right :: r => do
    let s ← right.print sparing Precedence.compare.next
    return codes " " ++ codes op.symbol ++ codes " " ++ s ++ (← printComparisons sparing r)

/-- Clauses of a comprehension. -/
def printClauses (sparing : Bool) : List Clause → Printed
  | [] => .ok []
  | .mk isAsync target source conditions :: r => do
    let t ← target.print sparing Precedence.tuple
    let s ← source.print sparing Precedence.test.next
    let c ← printConditions sparing conditions
    return codes (if isAsync then " async for " else " for ") ++ t ++ codes " in " ++ s ++ c ++
      (← printClauses sparing r)

/-- Conditions of a clause. -/
def printConditions (sparing : Bool) : List Expr → Printed
  | [] => .ok []
  | e :: r => do
    let s ← e.print sparing Precedence.test.next
    return codes " if " ++ s ++ (← printConditions sparing r)

/-- Parameters with their annotations and defaults. -/
def printParameters (sparing : Bool) : List Parameter → Except PrintFault (List (ParameterKind × Codes))
  | [] => .ok []
  | .mk kind name type default :: r => do
    let a ← match type with
      | some e => do pure (codes ": " ++ (← e.print sparing Precedence.test))
      | none => pure []
    let d ← match default with
      | some e => do pure (codes "=" ++ (← e.print sparing Precedence.test))
      | none => pure []
    return (kind, codes name ++ a ++ d) :: (← printParameters sparing r)

/-- The format of a field behind its colon. -/
def printFormat : Option Expr → Printed
  | none => .ok []
  | some e => do
    match e with
    | .joined parts => return codes ":" ++ (← printInside parts)
    | _ => return []

/-- The inside of a format string as one text. -/
def printInside : List Expr → Printed
  | [] => .ok []
  | e :: r => do
    let s ← match e with
      | .constant (.text cs _) => pure (doubleBraces cs)
      | e => e.print true Precedence.test
    return s ++ (← printInside r)

/-- The parts of a format string, each with the mark of a text. -/
def printParts : List Expr → Except PrintFault (List (Codes × Bool))
  | [] => .ok []
  | e :: r => do
    let s ← match e with
      | .constant (.text cs _) => pure (doubleBraces cs, true)
      | e => do pure (← e.print true Precedence.test, false)
    return s :: (← printParts r)

end

/-! ## 6. Signatures -/

/-- The characters of a written form. -/
def textOfCodes (s : Codes) : String := String.ofList (s.map Char.ofNat)

/-- An expression as it stands alone. -/
def Expr.text (e : Expr) : Except PrintFault String := (e.print false Precedence.test).map textOfCodes

/-- A parameter list. -/
def parametersText (ps : List Parameter) : Except PrintFault String := do
  return textOfCodes (separated ", " (divideParameters false false (← printParameters false ps)))

/-- Assignment targets with a sign of equality after each. -/
def printTargets : List Expr → Printed
  | [] => .ok []
  | e :: r => do
    let s ← e.print false Precedence.tuple
    return s ++ codes " = " ++ (← printTargets r)

/-- An assignment. -/
def assignText (targets : List Expr) (value : Expr) : Except PrintFault String := do
  let t ← printTargets targets
  return textOfCodes (t ++ (← value.print false Precedence.test))

/-- An annotated assignment; a name that is not `bare` keeps its parentheses. -/
def annotateText (target type : Expr) (value : Option Expr) (bare : Bool) : Except PrintFault String := do
  let t ← target.print false Precedence.test
  let t := match target with
    | .name _ => if bare then t else codes "(" ++ t ++ codes ")"
    | _ => t
  let a ← type.print false Precedence.test
  let v ← match value with
    | some e => do pure (codes " = " ++ (← e.print false Precedence.test))
    | none => pure []
  return textOfCodes (t ++ codes ": " ++ a ++ v)

end FragmentSearch.Source
