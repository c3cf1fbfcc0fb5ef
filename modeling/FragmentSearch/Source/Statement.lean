import FragmentSearch.Source.Pattern

/-!
# Reading statements

`Module.ofSource?` reads a whole source text. Of compound statements other than classes and functions only
the extent is kept, and the statements of their blocks.

What follows a line with a statement of its own is read by `block`, a parameter of every reader here;
`statementAt` ties the knot.
-/

namespace FragmentSearch.Source

open Reader

/-- What statement readers read other things by. -/
structure Parts where
  /-- Expressions of each kind. -/
  expr : Inner
  pattern : Reader Unit
  /-- The statements of a block behind the colon. -/
  block : Reader (List Stmt)
  fuel : Nat

/-! ## 1. Simple statements -/

/-- The operators that assign in place. -/
def augmentedOperators : List String :=
  ["+=", "-=", "*=", "@=", "/=", "%=", "&=", "|=", "^=", "<<=", ">>=", "**=", "//="]

/-- Is the lexeme one of the operators? -/
def Lexeme.isOpOf (symbols : List String) : Lexeme → Bool
  | .op s => symbols.contains s
  | _ => false

/-- Reads a dotted name. -/
def readDottedName (fuel : Nat) : Reader Unit := do
  let _ ← expectName
  let _ ← skipAttributes fuel

/-- Reads an optional new name. -/
def readAlias : Reader Unit := do
  if ← skipKeyword "as" then
    let _ ← expectName

/-- Is the lexeme a name? -/
def isNameLexeme : Lexeme → Bool
  | .name _ => true
  | _ => false

/-- Reads what an import takes from a module. A comma at the end needs parentheses. -/
def readImported (fuel : Nat) : Reader Unit := do
  let item : Reader Unit := do
    let _ ← expectName
    readAlias
  if ← skipOp "*" then return
  if ← skipOp "(" then
    let _ ← commaList isNameLexeme item fuel
    expectOp ")"
  else
    let (_, trailing) ← commaList isNameLexeme item fuel
    require !trailing

/-- Reads an import from a module behind the keyword. -/
def readImportFrom (fuel : Nat) : Reader Unit := do
  let dots ← iterate
    (fun _ => do
      if (← skipOp ".") || (← skipOp "...") then return some true
      return none)
    fuel false
  if !(dots && (← atKeyword "import")) then readDottedName fuel
  expectKeyword "import"
  readImported fuel

/-- Reads items separated by commas, without one at the end. -/
def readSeparated (item : Reader Unit) (fuel : Nat) : Reader Unit := do
  item
  iterate
    (fun _ => do
      if ← skipOp "," then
        item
        return some ()
      return none)
    fuel ()

/-- Does a statement end here? -/
def atStatementEnd : Reader Bool := do
  match ← peek with
  | .newline => return true
  | .op ";" => return true
  | _ => return false

/-- Reads a statement that a keyword introduces, behind the keyword; none if the keyword introduces
no simple statement. -/
def readKeywordStatement? (p : Parts) (word : String) : Option (Reader Unit) :=
  if ["pass", "break", "continue"].contains word then some (pure ())
  else if word = "return" then some do
    if startsItem (← peek) then
      let _ ← p.expr .list
  else if word = "raise" then some do
    if startsExpression (← peek) then
      let _ ← p.expr .expression
      if ← skipKeyword "from" then
        let _ ← p.expr .expression
  else if word = "global" ∨ word = "nonlocal" then some (readSeparated (do let _ ← expectName) p.fuel)
  else if word = "del" then some do
    let e ← p.expr .targets
    require (isTarget false e.expr)
    require (← atStatementEnd)
  else if word = "assert" then some do
    let _ ← p.expr .expression
    if ← skipOp "," then
      let _ ← p.expr .expression
  else if word = "import" then some (readSeparated (do readDottedName p.fuel; readAlias) p.fuel)
  else if word = "from" then some (readImportFrom p.fuel)
  else none

/-- Reads the rest of an assignment: `targets` are those read so far, last first, `value` the last
expression, which becomes a target if a sign of equality follows it. -/
def readAssigned (p : Parts) (first : Expr) : Reader (List Expr × Expr) := do
  let (targets, value, _) ← iterate
    (fun ((targets : List Expr), (value : Expr), closed) => do
      if closed then return none
      if ← skipOp "=" then
        require (isTarget true value)
        return some (value :: targets, (← p.expr .listOrYield).expr, false)
      return some (targets, value, true))
    (p.fuel + 1) ([], first, false)
  return (targets.reverse, value)

/-- Reads an expression, an assignment or an annotation. -/
def readExpressionStatement (p : Parts) : Reader Stmt := do
  let line ← peekLine
  let opened ← atOp "("
  let yields ← atKeyword "yield"
  let e ← p.expr .listOrYield
  if yields then return .expression ⟨line, ← lastLine⟩ e.expr
  let next ← peek
  if next.isOp ":" then
    require (isPlace e.expr)
    advance
    let type ← p.expr .expression
    let value ← if ← skipOp "=" then pure (some (← p.expr .listOrYield).expr) else pure none
    return .annotate ⟨line, ← lastLine⟩ e.expr type.expr value !opened
  else if next.isOpOf augmentedOperators then
    require (isPlace e.expr)
    advance
    let _ ← p.expr .listOrYield
    return .other ⟨line, ← lastLine⟩ []
  else if next.isOp "=" then
    let (targets, value) ← readAssigned p e.expr
    return .assign ⟨line, ← lastLine⟩ targets value
  else return .expression ⟨line, ← lastLine⟩ e.expr

/-- Reads one simple statement. -/
def readSimple (p : Parts) : Reader Stmt := do
  let line ← peekLine
  match ← peek with
  | .keyword word =>
    match readKeywordStatement? p word with
    | some rest =>
      advance
      rest
      return .other ⟨line, ← lastLine⟩ []
    | none => readExpressionStatement p
  | _ => readExpressionStatement p

/-- Reads the simple statements of a line. -/
def readSimpleLine (p : Parts) : Reader (List Stmt) := do
  let first ← readSimple p
  let (stmts, _) ← iterate
    (fun ((stmts : List Stmt), closed) => do
      if closed then return none
      if ← skipOp ";" then
        match ← peek with
        | .newline => return some (stmts, true)
        | _ => return some ((← readSimple p) :: stmts, false)
      return some (stmts, true))
    (p.fuel + 1) ([first], false)
  expectNewline
  return stmts.reverse

/-! ## 2. Compound statements -/

/-- Reads a colon and a block. -/
def readBody (p : Parts) : Reader (List Stmt) := do
  expectOp ":"
  p.block

/-- Reads an optional part that a keyword introduces: its block, if it is there. -/
def readPart? (p : Parts) (word : String) : Reader (Option (List Stmt)) := do
  if ← skipKeyword word then return some (← readBody p)
  return none

/-- Reads an optional part that a keyword introduces; without it there are no statements. -/
def readPart (p : Parts) (word : String) : Reader (List Stmt) := return (← readPart? p word).getD []

/-- Reads a conditional statement behind its keyword. -/
def readIf (p : Parts) : Reader (List Stmt) := do
  let _ ← p.expr .named
  let first ← readBody p
  let bodies ← iterate
    (fun (bodies : List Stmt) => do
      if ← skipKeyword "elif" then
        let _ ← p.expr .named
        return some (bodies ++ (← readBody p))
      return none)
    p.fuel first
  return bodies ++ (← readPart p "else")

/-- Reads a loop over items behind its keyword. -/
def readFor (p : Parts) : Reader (List Stmt) := do
  let _ ← p.expr .targets
  expectKeyword "in"
  let _ ← p.expr .list
  let body ← readBody p
  return body ++ (← readPart p "else")

/-- Reads a conditional loop behind its keyword. -/
def readWhile (p : Parts) : Reader (List Stmt) := do
  let _ ← p.expr .named
  let body ← readBody p
  return body ++ (← readPart p "else")

/-- Reads one context of `with`. -/
def readContext (p : Parts) : Reader Unit := do
  let _ ← p.expr .expression
  if ← skipKeyword "as" then
    let _ ← p.expr .target
    let next ← peek
    require (next.isOp "," || next.isOp ")" || next.isOp ":")

/-- Reads `with` behind its keyword. Parentheses around all contexts are tried before parentheses that
belong to the first of them. -/
def readWith (p : Parts) : Reader (List Stmt) := do
  orElse
    (do
      expectOp "("
      let _ ← commaList startsExpression (readContext p) p.fuel
      expectOp ")"
      expectOp ":")
    (do
      readSeparated (readContext p) p.fuel
      expectOp ":")
  p.block

/-- What kinds of handlers a `try` has so far. -/
inductive HandlerKind where
  | plain | group
  deriving DecidableEq

/-- Reads one handler behind its keyword, of the same kind as those before. -/
def readHandler (p : Parts) (kind : Option HandlerKind) : Reader (HandlerKind × List Stmt) := do
  let this ← if ← skipOp "*" then pure .group else pure HandlerKind.plain
  require (kind.all (· = this))
  if this = .group || !(← atOp ":") then
    let _ ← p.expr .expression
    readAlias
  return (this, ← readBody p)

/-- Reads `try` behind its keyword: with handlers, with a final part, or with both. -/
def readTry (p : Parts) : Reader (List Stmt) := do
  let first ← readBody p
  let (kind, bodies) ← iterate
    (fun ((kind : Option HandlerKind), (bodies : List Stmt)) => do
      if ← skipKeyword "except" then
        let (this, body) ← readHandler p kind
        return some (some this, bodies ++ body)
      return none)
    p.fuel (none, first)
  let otherwise ← if kind.isSome then readPart p "else" else pure []
  let final ← readPart? p "finally"
  require (kind.isSome || final.isSome)
  return bodies ++ otherwise ++ final.getD []

/-- Reads the subject of a `match`. -/
def readSubject (p : Parts) : Reader Unit := do
  let (items, trailing) ← commaList startsItem (p.expr .namedItem) p.fuel
  match items, trailing with
  | [e], false => require (match e.expr with
    | .starred _ => false
    | _ => true)
  | _, _ => pure ()

/-- Reads one case. -/
def readCase (p : Parts) : Reader (List Stmt) := do
  advance
  readCasePatterns p.pattern p.fuel
  if ← skipKeyword "if" then
    let _ ← p.expr .named
  readBody p

/-- Reads the head of a `match` up to its first case. -/
def readMatchHead (p : Parts) : Reader Unit := do
  require ((← peek).isName "match")
  advance
  readSubject p
  expectOp ":"
  expectNewline
  match ← peek with
  | .indent => advance
  | _ => refuse
  require ((← peek).isName "case")

/-- Reads the cases of a `match` and the end of its block. -/
def readCases (p : Parts) : Reader (List Stmt) := do
  let bodies ← iterate
    (fun (bodies : List Stmt) => do
      if (← peek).isName "case" then return some (bodies ++ (← readCase p))
      return none)
    p.fuel []
  match ← peek with
  | .dedent => advance
  | _ => refuse
  return bodies

/-- Reads a function behind `def`. -/
def readFunction (p : Parts) (line : Nat) (decorators : List Nat) (isAsync : Bool) : Reader Stmt := do
  let name ← expectName
  expectOp "("
  let parameters ← readParameters p.expr true ")" p.fuel
  expectOp ")"
  let result ← if ← skipOp "->" then pure (some (← p.expr .expression).expr) else pure none
  expectOp ":"
  let body ← p.block
  return .functionDef ⟨line, ← lastLine⟩ decorators ⟨isAsync, name, parameters, result⟩ body

/-- Reads a class behind its keyword. -/
def readClass (p : Parts) (line : Nat) (decorators : List Nat) : Reader Stmt := do
  let name ← expectName
  let (bases, keywords) ← if ← skipOp "(" then readArguments p.expr false p.fuel else pure ([], [])
  expectOp ":"
  let body ← p.block
  return .classDef ⟨line, ← lastLine⟩ decorators ⟨name, bases, keywords⟩ body

/-- Reads a class or a function behind its decorators. -/
def readDefinition (p : Parts) (decorators : List Nat) : Reader Stmt := do
  let line ← peekLine
  if ← skipKeyword "class" then readClass p line decorators
  else
    let isAsync ← skipKeyword "async"
    expectKeyword "def"
    readFunction p line decorators isAsync

/-- Reads decorators: the lines on which they begin. -/
def readDecorators (p : Parts) : Reader (List Nat) := do
  let lines ← iterate
    (fun lines => do
      if ← skipOp "@" then
        let e ← p.expr .named
        expectNewline
        return some (e.line :: lines)
      return none)
    p.fuel []
  return lines.reverse

/-- Reads a compound statement of which only the extent and the blocks are kept. -/
def readPlain (line : Nat) (read : Reader (List Stmt)) : Reader (List Stmt) := do
  advance
  let blocks ← read
  return [.other ⟨line, ← lastLine⟩ blocks]

/-- Reads a compound statement that `async` introduces. -/
def readAsync (p : Parts) (line : Nat) : Reader (List Stmt) := do
  let second ← peekSecond
  if second.isKeyword "with" then
    advance
    readPlain line (readWith p)
  else if second.isKeyword "for" then
    advance
    readPlain line (readFor p)
  else return [← readDefinition p []]

/-- Reads one statement, or the statements of one line. -/
def readStatement (p : Parts) : Reader (List Stmt) := do
  let line ← peekLine
  match ← peek with
  | .op "@" => do
    let decorators ← readDecorators p
    return [← readDefinition p decorators]
  | .keyword word =>
    if word = "class" ∨ word = "def" then return [← readDefinition p []]
    else if word = "async" then readAsync p line
    else if word = "if" then readPlain line (readIf p)
    else if word = "for" then readPlain line (readFor p)
    else if word = "while" then readPlain line (readWhile p)
    else if word = "with" then readPlain line (readWith p)
    else if word = "try" then readPlain line (readTry p)
    else readSimpleLine p
  | .name "match" =>
    match ← attempt (readMatchHead p) with
    | some _ => do
      let blocks ← readCases p
      return [.other ⟨line, ← lastLine⟩ blocks]
    | none => readSimpleLine p
  | _ => readSimpleLine p

/-! ## 3. Blocks and modules -/

/-- Does a block end here? -/
def atBlockEnd : Reader Bool := do
  match ← peek with
  | .dedent => return true
  | .endMarker => return true
  | _ => return false

/-- Reads statements up to the end of a block. -/
def readStatements (statement : Reader (List Stmt)) (fuel : Nat) : Reader (List Stmt) := do
  let groups ← iterate
    (fun groups => do
      if ← atBlockEnd then return none
      return some ((← statement) :: groups))
    fuel []
  return groups.reverse.flatten

/-- Reads a block: an indented one, or statements on the same line. -/
def readBlock (statement line : Reader (List Stmt)) (fuel : Nat) : Reader (List Stmt) := do
  match ← peek with
  | .newline => do
    advance
    match ← peek with
    | .indent => advance
    | _ => refuse
    let body ← readStatements statement fuel
    require !body.isEmpty
    match ← peek with
    | .dedent => advance
    | _ => refuse
    return body
  | _ => line

/-- Reads one statement; every level of nesting takes a token. -/
def statementAt (expr : Inner) (pattern : Reader Unit) : Nat → Reader (List Stmt)
  | 0 => refuse
  | fuel + 1 =>
    let simple : Parts := ⟨expr, pattern, refuse, fuel + 1⟩
    readStatement ⟨expr, pattern, readBlock (statementAt expr pattern fuel) (readSimpleLine simple) (fuel + 1),
      fuel + 1⟩

/-- Reads a whole source text; `named` looks up characters by name. -/
def Module.ofSource? (named : List Char → Option Nat) (source : String) : Option Module := do
  let tokens ← tokens? source.toList
  let fuel := source.length + 2
  let expr := expressionAt named fuel
  let literals := readLiterals named expr fuel
  let (body, rest) ← (readStatements (statementAt expr (patternAt literals fuel) fuel) fuel).run ⟨tokens, 1⟩
  match rest.rest with
  | [⟨.endMarker, _, _⟩] => return body
  | _ => none

end FragmentSearch.Source
