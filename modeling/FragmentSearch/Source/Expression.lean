import FragmentSearch.Source.Stream
import FragmentSearch.Source.FormatString

/-!
# Reading expressions

The grammar of expressions, level by level from names and literals up to conditional expressions and
`lambda`. Wherever an expression contains another one behind a token of its own, the inner one is read
by a parameter `inner`, so every level is an ordinary definition; `expressionAt` ties them together by
recursion on a fuel that exceeds the number of characters.

Readers give an expression with the line on which it begins. Parentheses around an expression leave no
trace, also not in that line.
-/

namespace FragmentSearch.Source

open Reader

/-! ## 1. What is read -/

/-- An expression with the line on which it begins. -/
structure Spanned where
  line : Nat
  expr : Expr

/-- The kinds of expressions that occur inside others. -/
inductive Goal where
  /-- Conditional expressions and everything that binds tighter. -/
  | expression
  /-- An expression that may assign a name. -/
  | named
  /-- The same, or an unpacked one. -/
  | namedItem
  /-- One or more expressions, some perhaps unpacked; commas make a tuple. -/
  | list
  /-- A list of expressions, or `yield`. -/
  | listOrYield
  | disjunction
  | inversion
  | factor
  | bitOr
  /-- What a `for` assigns to. -/
  | targets
  /-- One assignment target, perhaps unpacked. -/
  | target

/-- A reader for each kind. -/
abbrev Inner := Goal → Reader Spanned

/-- Can an expression begin with the lexeme? -/
def startsExpression : Lexeme → Bool
  | .name _ => true
  | .number _ => true
  | .literal _ => true
  | .keyword w => ["None", "True", "False", "not", "lambda", "await"].contains w
  | .op s => ["(", "[", "\x7b", "-", "+", "~", "..."].contains s
  | _ => false

/-- Can an item of a list begin with the lexeme? -/
def startsItem (l : Lexeme) : Bool := startsExpression l || l.isOp "*"

/-! ## 2. Targets of assignments -/

mutual

/-- Can the expression be assigned to, or, if `starred`, be unpacked into? -/
def isTarget (starred : Bool) : Expr → Bool
  | .name _ => true
  | .attribute _ _ => true
  | .subscript _ _ => true
  | .tuple items => areTargets starred items
  | .list items => areTargets starred items
  | .starred e => starred && (match e with
    | .starred _ => false
    | _ => isTarget starred e)
  | _ => false

/-- Can all the expressions be assigned to? -/
def areTargets (starred : Bool) : List Expr → Bool
  | [] => true
  | e :: r => isTarget starred e && areTargets starred r

end

/-- Is the expression a single place: a name, an attribute or an element? -/
def isPlace : Expr → Bool
  | .name _ => true
  | .attribute _ _ => true
  | .subscript _ _ => true
  | _ => false

/-! ## 3. Calls -/

/-- The arguments of a call while they are read, last first. After a named argument only named and
unpacked ones follow, after an unpacked mapping no unpacked sequence. -/
structure CallArguments where
  arguments : List Expr
  keywords : List Keyword
  named : Bool
  mapped : Bool

/-- Reads one argument. -/
def readArgument (inner : Inner) (a : CallArguments) : Reader CallArguments := do
  if ← skipOp "**" then
    let e ← inner .expression
    return { a with keywords := .mk none e.expr :: a.keywords, named := true, mapped := true }
  if ← skipOp "*" then
    require !a.mapped
    let e ← inner .expression
    return { a with arguments := .starred e.expr :: a.arguments }
  match ← peek, ← peekSecond with
  | .name id, .op "=" =>
    advance
    advance
    let e ← inner .expression
    return { a with keywords := .mk (some id) e.expr :: a.keywords, named := true }
  | _, _ =>
    require !a.named
    let e ← inner .named
    return { a with arguments := e.expr :: a.arguments }

/-! ## 4. Comprehensions -/

/-- Does a comprehension clause begin here? -/
def atClause : Reader Bool := do
  if ← atKeyword "for" then return true
  return (← atKeyword "async") && (← peekSecond).isKeyword "for"

/-- Reads one clause. -/
def readClause (inner : Inner) (fuel : Nat) : Reader Clause := do
  let isAsync ← skipKeyword "async"
  expectKeyword "for"
  let target ← inner .targets
  expectKeyword "in"
  let source ← inner .disjunction
  let conditions ← iterate
    (fun cs => do
      if ← skipKeyword "if" then return some ((← inner .disjunction).expr :: cs)
      return none)
    fuel []
  return .mk isAsync target.expr source.expr conditions.reverse

/-- Reads the clauses of a comprehension. -/
def readClauses (inner : Inner) (fuel : Nat) : Reader (List Clause) := do
  let clauses ← iterate
    (fun cs => do
      if ← atClause then return some ((← readClause inner fuel) :: cs)
      return none)
    fuel []
  return clauses.reverse

/-! ## 5. Argument lists -/

/-- Reads arguments after the first, with the closing parenthesis. -/
def readMoreArguments (inner : Inner) (fuel : Nat) (start : CallArguments) : Reader (List Expr × List Keyword) := do
  let (a, _) ← iterate
    (fun ((a : CallArguments), closed) => do
      if closed then return none
      if ← skipOp ")" then return some (a, true)
      expectOp ","
      if ← skipOp ")" then return some (a, true)
      return some (← readArgument inner a, false))
    (fuel + 1) (start, false)
  return (a.arguments.reverse, a.keywords.reverse)

/-- Reads the arguments of a call behind the opening parenthesis, with the closing one. A generator
that stands alone needs no parentheses of its own, if `generators` are admitted. -/
def readArguments (inner : Inner) (generators : Bool) (fuel : Nat) : Reader (List Expr × List Keyword) := do
  if ← skipOp ")" then return ([], [])
  let first ← readArgument inner ⟨[], [], false, false⟩
  if generators && (← atClause) then
    match first.arguments with
    | [.starred _] => refuse
    | [item] => do
      let clauses ← readClauses inner fuel
      expectOp ")"
      return ([.comprehension .generator item clauses], [])
    | _ => refuse
  readMoreArguments inner fuel first

/-! ## 6. Parameters -/

/-- Parameters while they are read, last first. -/
structure ParameterState where
  parameters : List Parameter
  /-- A default has been given, so that every later ordinary parameter needs one. -/
  defaulted : Bool
  slashed : Bool
  /-- A star has been read: what follows is named by the caller. -/
  starred : Bool
  /-- A star that stands alone still waits for a parameter. -/
  waiting : Bool
  finished : Bool

/-- Reads an annotation if parameters have them here. -/
def readAnnotation (inner : Inner) (annotated starAllowed : Bool) : Reader (Option Expr) := do
  if annotated then
    if ← skipOp ":" then
      if starAllowed then
        if ← skipOp "*" then return some (.starred (← inner .bitOr).expr)
      return some (← inner .expression).expr
  return none

/-- Reads one item of a parameter list. -/
def readParameter (inner : Inner) (annotated : Bool) (st : ParameterState) : Reader ParameterState := do
  if ← skipOp "/" then
    require (!st.parameters.isEmpty && !st.slashed && !st.starred)
    let mark : Parameter → Parameter
      | .mk _ name a d => .mk .positionalOnly name a d
    return { st with parameters := st.parameters.map mark, slashed := true }
  if ← skipOp "**" then
    require !st.waiting
    let name ← expectName
    let a ← readAnnotation inner annotated false
    return { st with parameters := .mk .keywords name a none :: st.parameters, finished := true }
  if ← skipOp "*" then
    require !st.starred
    if ← atOp "," then return { st with starred := true, waiting := true }
    let name ← expectName
    let a ← readAnnotation inner annotated annotated
    return { st with parameters := .mk .rest name a none :: st.parameters, starred := true }
  let name ← expectName
  let a ← readAnnotation inner annotated false
  let d ← if ← skipOp "=" then pure (some (← inner .expression).expr) else pure none
  if st.starred then
    return { st with parameters := .mk .keywordOnly name a d :: st.parameters, waiting := false }
  require (d.isSome || !st.defaulted)
  return { st with parameters := .mk .ordinary name a d :: st.parameters, defaulted := st.defaulted || d.isSome }

/-- Reads a parameter list up to the operator `close`, which stays. -/
def readParameters (inner : Inner) (annotated : Bool) (close : String) (fuel : Nat) : Reader (List Parameter) := do
  if ← atOp close then return []
  let start ← readParameter inner annotated ⟨[], false, false, false, false, false⟩
  let (st, _) ← iterate
    (fun ((st : ParameterState), closed) => do
      if closed then return none
      if ← atOp close then return some (st, true)
      expectOp ","
      if ← atOp close then return some (st, true)
      require !st.finished
      return some (← readParameter inner annotated st, false))
    (fuel + 1) (start, false)
  require !st.waiting
  return st.parameters.reverse

/-! ## 7. Atoms -/

/-- The expression that an f-string field holds, read as if it stood in parentheses. -/
def readField (inner : Inner) (source : List Char) : Option Expr :=
  match tokens? ('(' :: source ++ [')']) with
  | none => none
  | some tokens =>
    match (inner .list).run ⟨tokens, 1⟩ with
    | some (e, ⟨⟨.newline, _, _⟩ :: _, _⟩) => some e.expr
    | _ => none

/-- Reads adjacent literals as one value. `named` looks up characters by name. -/
def readLiterals (named : List Char → Option Nat) (inner : Inner) (fuel : Nat) : Reader Expr := do
  let literals ← iterate
    (fun ls => do
      match ← peek with
      | .literal l =>
        advance
        return some (l :: ls)
      | _ => return none)
    fuel []
  ofOption (joinLiterals? named (readField inner) literals.reverse)

/-- The constant that a number denotes. -/
def Number.constant : Number → Constant
  | .integer n => .integer n
  | .real x => .real x
  | .imaginary x => .imaginary x

/-- Reads `yield` with what it yields, behind the keyword. -/
def readYield (inner : Inner) : Reader Expr := do
  if ← skipKeyword "from" then return .yieldFrom (← inner .expression).expr
  if startsItem (← peek) then return .yield (some (← inner .list).expr)
  return .yield none

/-- Reads what stands in parentheses, behind the opening one: a tuple, a generator, or any expression,
which keeps its own first line. -/
def readParenthesized (inner : Inner) (fuel line : Nat) : Reader Spanned := do
  if ← skipOp ")" then return ⟨line, .tuple []⟩
  let start ← peekLine
  if ← skipKeyword "yield" then
    let e ← readYield inner
    expectOp ")"
    return ⟨start, e⟩
  let first ← inner .namedItem
  let unpacked := match first.expr with
    | .starred _ => true
    | _ => false
  if ← atOp "," then
    advance
    if ← skipOp ")" then return ⟨line, .tuple [first.expr]⟩
    let (items, _) ← commaList startsItem (inner .namedItem) fuel
    expectOp ")"
    return ⟨line, .tuple (first.expr :: items.map (·.expr))⟩
  require !unpacked
  if ← atClause then
    let clauses ← readClauses inner fuel
    expectOp ")"
    return ⟨line, .comprehension .generator first.expr clauses⟩
  expectOp ")"
  return first

/-- Reads a list or a list comprehension behind the opening bracket. -/
def readBracketed (inner : Inner) (fuel : Nat) : Reader Expr := do
  if ← skipOp "]" then return .list []
  let (items, trailing) ← commaList startsItem (inner .namedItem) fuel
  let items : List Expr := items.map (·.expr)
  if !trailing && (← atClause) then
    match items with
    | [.starred _] => refuse
    | [item] => do
      let clauses ← readClauses inner fuel
      expectOp "]"
      return .comprehension .list item clauses
    | _ => refuse
  expectOp "]"
  return .list items

/-- Reads an entry of a dictionary. -/
def readEntry (inner : Inner) : Reader Entry := do
  if ← skipOp "**" then return .mk none (← inner .bitOr).expr
  let key ← inner .expression
  expectOp ":"
  return .mk (some key.expr) (← inner .expression).expr

/-- Reads the entries of a dictionary after the first, with the closing brace. -/
def readEntries (inner : Inner) (fuel : Nat) (first : Entry) : Reader Expr := do
  let (entries, _) ← iterate
    (fun ((entries : List Entry), closed) => do
      if closed then return none
      if ← skipOp "\x7d" then return some (entries, true)
      expectOp ","
      if ← skipOp "\x7d" then return some (entries, true)
      return some ((← readEntry inner) :: entries, false))
    (fuel + 1) ([first], false)
  return .dict entries.reverse

/-- Reads a set, a dictionary or a comprehension of either behind the opening brace. -/
def readBraced (inner : Inner) (fuel : Nat) : Reader Expr := do
  if ← skipOp "\x7d" then return .dict []
  if ← atOp "**" then
    let first ← readEntry inner
    readEntries inner fuel first
  else
    let plain := !(← peekSecond).isOp ":="
    let first ← inner .namedItem
    let unpacked := match first.expr with
      | .starred _ => true
      | _ => false
    if plain && !unpacked && (← skipOp ":") then
      let value ← inner .expression
      if ← atClause then
        let clauses ← readClauses inner fuel
        expectOp "\x7d"
        return .dictComprehension first.expr value.expr clauses
      readEntries inner fuel (.mk (some first.expr) value.expr)
    else if !unpacked && (← atClause) then
      let clauses ← readClauses inner fuel
      expectOp "\x7d"
      return .comprehension .set first.expr clauses
    else
      let more ← if ← skipOp "," then
          (if ← atOp "\x7d" then pure [] else do
            let (items, _) ← commaList startsItem (inner .namedItem) fuel
            pure items)
        else pure []
      expectOp "\x7d"
      return .set (first.expr :: more.map (·.expr))

/-- Reads an atom. -/
def readAtom (named : List Char → Option Nat) (inner : Inner) (fuel : Nat) : Reader Spanned := do
  let line ← peekLine
  match ← peek with
  | .name id =>
    advance
    return ⟨line, .name id⟩
  | .number n =>
    advance
    return ⟨line, .constant n.constant⟩
  | .literal _ => return ⟨line, ← readLiterals named inner fuel⟩
  | .keyword "None" =>
    advance
    return ⟨line, .constant .none⟩
  | .keyword "True" =>
    advance
    return ⟨line, .constant (.bool true)⟩
  | .keyword "False" =>
    advance
    return ⟨line, .constant (.bool false)⟩
  | .op "..." =>
    advance
    return ⟨line, .constant .ellipsis⟩
  | .op "(" =>
    advance
    readParenthesized inner fuel line
  | .op "[" =>
    advance
    return ⟨line, ← readBracketed inner fuel⟩
  | .op "\x7b" =>
    advance
    return ⟨line, ← readBraced inner fuel⟩
  | _ => refuse

/-! ## 8. Primaries -/

/-- Reads an optional bound of a slice. -/
def readBound (inner : Inner) : Reader (Option Expr) := do
  if startsExpression (← peek) then return some (← inner .expression).expr
  return none

/-- Reads what follows the first colon of a slice. -/
def readSliceTail (inner : Inner) (lower : Option Expr) : Reader Expr := do
  let upper ← readBound inner
  let step ← if ← skipOp ":" then readBound inner else pure none
  return .slice lower upper step

/-- Reads one index: an unpacked expression, a slice or an expression. -/
def readIndex (inner : Inner) : Reader Expr := do
  if ← skipOp "*" then return .starred (← inner .expression).expr
  if ← skipOp ":" then readSliceTail inner none
  else
    let plain := !(← peekSecond).isOp ":="
    let e ← inner .named
    if plain && (← skipOp ":") then readSliceTail inner (some e.expr) else return e.expr

/-- Reads the indices of an element access behind the opening bracket, with the closing one. -/
def readIndices (inner : Inner) (fuel : Nat) : Reader Expr := do
  let (items, trailing) ← commaList (fun l => startsItem l || l.isOp ":") (readIndex inner) fuel
  expectOp "]"
  match items, trailing with
  | [.starred e], _ => return .tuple [.starred e]
  | [item], false => return item
  | items, _ => return .tuple items

/-- Reads a primary: an atom with attributes, elements and calls. -/
def readPrimary (named : List Char → Option Nat) (inner : Inner) (fuel : Nat) : Reader Spanned := do
  let line ← peekLine
  let atom ← readAtom named inner fuel
  iterate
    (fun (e : Spanned) => do
      if ← skipOp "." then return some ⟨line, .attribute e.expr (← expectName)⟩
      if ← skipOp "(" then
        let (arguments, keywords) ← readArguments inner true fuel
        return some ⟨line, .call e.expr arguments keywords⟩
      if ← skipOp "[" then return some ⟨line, .subscript e.expr (← readIndices inner fuel)⟩
      return none)
    fuel atom

/-! ## 9. Operators -/

/-- Reads a power. -/
def readPower (named : List Char → Option Nat) (inner : Inner) (fuel : Nat) : Reader Spanned := do
  let line ← peekLine
  let base ← if ← skipKeyword "await" then do
      let e ← readPrimary named inner fuel
      pure ⟨line, Expr.await e.expr⟩
    else readPrimary named inner fuel
  if ← skipOp "**" then return ⟨line, .binary .pow base.expr (← inner .factor).expr⟩
  return base

/-- The signs in front of a factor. -/
def signs : List (String × UnaryOp) := [("+", .plus), ("-", .minus), ("~", .invert)]

/-- Reads a factor. -/
def readFactor (named : List Char → Option Nat) (inner : Inner) (fuel : Nat) : Reader Spanned := do
  let line ← peekLine
  match ← skipOpOf signs with
  | some op => return ⟨line, .unary op (← inner .factor).expr⟩
  | none => readPower named inner fuel

/-- The binary operators that associate to the left, from the loosest level to the tightest. -/
def binaryLevels : List (List (String × BinaryOp)) :=
  [[("|", .bitOr)], [("^", .bitXor)], [("&", .bitAnd)], [("<<", .shiftLeft), (">>", .shiftRight)],
    [("+", .add), ("-", .sub)],
    [("*", .mul), ("/", .div), ("//", .floorDiv), ("%", .mod), ("@", .matMul)]]

/-- Reads the given levels of binary operators over an operand. -/
def readBinary (operand : Reader Spanned) (fuel : Nat) : List (List (String × BinaryOp)) → Reader Spanned
  | [] => operand
  | level :: tighter => do
    let line ← peekLine
    let first ← readBinary operand fuel tighter
    iterate
      (fun (left : Spanned) => do
        match ← skipOpOf level with
        | some op => return some ⟨line, .binary op left.expr (← readBinary operand fuel tighter).expr⟩
        | none => return none)
      fuel first

/-- Reads an expression without comparisons. -/
def readBitOr (named : List Char → Option Nat) (inner : Inner) (fuel : Nat) : Reader Spanned :=
  readBinary (readFactor named inner fuel) fuel binaryLevels

/-- The comparisons that are operators. -/
def comparisons : List (String × CompareOp) :=
  [("==", .eq), ("!=", .notEq), ("<=", .ltE), ("<", .lt), (">=", .gtE), (">", .gt)]

/-- Takes a comparison if one comes next. -/
def skipComparison : Reader (Option CompareOp) := do
  match ← skipOpOf comparisons with
  | some op => return some op
  | none =>
    if ← skipKeyword "in" then return some .isIn
    if (← atKeyword "not") && (← peekSecond).isKeyword "in" then
      advance
      advance
      return some .notIn
    if ← skipKeyword "is" then
      if ← skipKeyword "not" then return some .isNot
      return some .is
    return none

/-- Reads a chain of comparisons. -/
def readComparison (named : List Char → Option Nat) (inner : Inner) (fuel : Nat) : Reader Spanned := do
  let line ← peekLine
  let first ← readBitOr named inner fuel
  let rest ← iterate
    (fun cs => do
      match ← skipComparison with
      | some op => return some (Comparison.mk op (← readBitOr named inner fuel).expr :: cs)
      | none => return none)
    fuel []
  if rest.isEmpty then return first
  return ⟨line, .compare first.expr rest.reverse⟩

/-- Reads a negation or a comparison. -/
def readInversion (named : List Char → Option Nat) (inner : Inner) (fuel : Nat) : Reader Spanned := do
  let line ← peekLine
  if ← skipKeyword "not" then return ⟨line, .unary .not (← inner .inversion).expr⟩
  readComparison named inner fuel

/-- Reads operands between which a keyword stands. -/
def readJunction (word : String) (build : List Expr → Expr) (operand : Reader Spanned) (fuel : Nat) :
    Reader Spanned := do
  let line ← peekLine
  let first ← operand
  let rest ← iterate
    (fun es => do
      if ← skipKeyword word then return some ((← operand).expr :: es)
      return none)
    fuel []
  if rest.isEmpty then return first
  return ⟨line, build (first.expr :: rest.reverse)⟩

/-- Reads a disjunction. -/
def readDisjunction (named : List Char → Option Nat) (inner : Inner) (fuel : Nat) : Reader Spanned :=
  readJunction "or" .disjunction (readJunction "and" .conjunction (readInversion named inner fuel) fuel) fuel

/-! ## 10. Whole expressions -/

/-- Reads an expression. -/
def readExpression (named : List Char → Option Nat) (inner : Inner) (fuel : Nat) : Reader Spanned := do
  let line ← peekLine
  if ← skipKeyword "lambda" then
    let parameters ← readParameters inner false ":" fuel
    expectOp ":"
    return ⟨line, .lambda parameters (← inner .expression).expr⟩
  let body ← readDisjunction named inner fuel
  if ← skipKeyword "if" then
    let test ← inner .disjunction
    expectKeyword "else"
    return ⟨line, .conditional test.expr body.expr (← inner .expression).expr⟩
  return body

/-- Reads an expression that may assign a name. -/
def readNamed (named : List Char → Option Nat) (inner : Inner) (fuel : Nat) : Reader Spanned := do
  let line ← peekLine
  match ← peek, ← peekSecond with
  | .name id, .op ":=" =>
    advance
    advance
    return ⟨line, .assignment (.name id) (← inner .expression).expr⟩
  | _, _ =>
    let e ← readExpression named inner fuel
    require !(← atOp ":=")
    return e

/-- Reads an unpacked expression, or one by the given reader. -/
def readItem (inner : Inner) (plain : Reader Spanned) : Reader Spanned := do
  let line ← peekLine
  if ← skipOp "*" then return ⟨line, .starred (← inner .bitOr).expr⟩
  plain

/-- Reads one or more items; a comma makes a tuple. -/
def readList (starts : Lexeme → Bool) (item : Reader Spanned) (fuel : Nat) : Reader Spanned := do
  let line ← peekLine
  match ← commaList starts item fuel with
  | ([e], false) => return e
  | (es, _) => return ⟨line, .tuple (es.map (·.expr))⟩

/-- Reads one assignment target, perhaps unpacked. -/
def readTarget (named : List Char → Option Nat) (inner : Inner) (fuel : Nat) : Reader Spanned := do
  let line ← peekLine
  let e ← if ← skipOp "*" then do
      let e ← inner .target
      pure ⟨line, Expr.starred e.expr⟩
    else readPrimary named inner fuel
  require (isTarget true e.expr)
  return e

/-- Reads an expression of the given kind, the ones inside it by `inner`. -/
def readGoal (named : List Char → Option Nat) (inner : Inner) (fuel : Nat) : Goal → Reader Spanned
  | .expression => readExpression named inner fuel
  | .named => readNamed named inner fuel
  | .namedItem => readItem inner (readNamed named inner fuel)
  | .list => readList startsItem (readItem inner (readExpression named inner fuel)) fuel
  | .listOrYield => do
    let line ← peekLine
    if ← skipKeyword "yield" then return ⟨line, ← readYield inner⟩
    readList startsItem (readItem inner (readExpression named inner fuel)) fuel
  | .disjunction => readDisjunction named inner fuel
  | .inversion => readInversion named inner fuel
  | .factor => readFactor named inner fuel
  | .bitOr => readBitOr named inner fuel
  | .targets => readList startsItem (readTarget named inner fuel) fuel
  | .target => readTarget named inner fuel

/-- Reads an expression of the given kind. Every level of nesting takes a character at least, so a fuel
above the length of the source never runs out. -/
def expressionAt (named : List Char → Option Nat) : Nat → Inner
  | 0, _ => refuse
  | fuel + 1, g => readGoal named (expressionAt named fuel) (fuel + 1) g

end FragmentSearch.Source
