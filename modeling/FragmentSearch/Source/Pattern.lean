import FragmentSearch.Source.Expression

/-!
# Reading patterns

The patterns of `case`. Fragments hold nothing of them, so a pattern is only recognised and has no tree.
-/

namespace FragmentSearch.Source

open Reader

/-! ## 1. Leaves -/

/-- Reads the name that a pattern binds; `_` binds nothing. -/
def readCapture : Reader Unit := do
  let name ← expectName
  require (name ≠ "_")
  let next ← peek
  require !(next.isOp "." || next.isOp "(" || next.isOp "=")

/-- Reads a number with an optional sign; a sign between two numbers makes a complex one, whose second
part is imaginary and whose first is not. -/
def readPatternNumber : Reader Unit := do
  let _ ← skipOp "-"
  let real ← match ← peek with
    | .number (.imaginary _) => do
      advance
      pure false
    | .number _ => do
      advance
      pure true
    | _ => refuse
  if (← skipOp "+") || (← skipOp "-") then
    match ← peek with
    | .number (.imaginary _) => do
      require real
      advance
    | _ => refuse

/-- Reads a literal, if one begins here. -/
def skipPatternLiteral (literals : Reader Expr) : Reader Bool := do
  match ← peek with
  | .number _ =>
    readPatternNumber
    return true
  | .op "-" =>
    readPatternNumber
    return true
  | .literal _ =>
    let _ ← literals
    return true
  | .keyword w =>
    if ["None", "True", "False"].contains w then
      advance
      return true
    return false
  | _ => return false

/-- Reads the attributes after a name; tells whether there are any. -/
def skipAttributes (fuel : Nat) : Reader Bool :=
  iterate
    (fun _ => do
      if ← skipOp "." then
        let _ ← expectName
        return some true
      return none)
    fuel false

/-! ## 2. Patterns that hold others -/

/-- Can a pattern begin with the lexeme? -/
def startsPattern : Lexeme → Bool
  | .name _ => true
  | .number _ => true
  | .literal _ => true
  | .keyword w => ["None", "True", "False"].contains w
  | .op s => ["-", "(", "[", "\x7b", "*"].contains s
  | _ => false

/-- Reads an item of a sequence; tells whether it takes all that is left. -/
def readSequenceItem (pattern : Reader Unit) : Reader Bool := do
  if ← skipOp "*" then
    if (← peek).isName "_" then advance else readCapture
    return true
  pattern
  return false

/-- Reads the items of a sequence up to the operator `close`, which is taken. -/
def readSequence (pattern : Reader Unit) (close : String) (fuel : Nat) : Reader Unit := do
  if ← skipOp close then return
  let _ ← commaList startsPattern (readSequenceItem pattern) fuel
  expectOp close

/-- Reads what stands in parentheses: one pattern, or a sequence. -/
def readPatternGroup (pattern : Reader Unit) (fuel : Nat) : Reader Unit := do
  if ← skipOp ")" then return
  let (items, trailing) ← commaList startsPattern (readSequenceItem pattern) fuel
  require (trailing || items ≠ [true])
  expectOp ")"

/-- Reads an entry of a mapping; tells whether it takes all that is left. -/
def readMappingItem (literals : Reader Expr) (pattern : Reader Unit) (fuel : Nat) : Reader Bool := do
  if ← skipOp "**" then
    readCapture
    return true
  if !(← skipPatternLiteral literals) then
    let _ ← expectName
    require (← skipAttributes fuel)
  expectOp ":"
  pattern
  return false

/-- Reads a mapping behind the opening brace. What takes the rest stands last. -/
def readMapping (literals : Reader Expr) (pattern : Reader Unit) (fuel : Nat) : Reader Unit := do
  if ← skipOp "\x7d" then return
  let (items, _) ← commaList (fun l => !l.isOp "\x7d") (readMappingItem literals pattern fuel) fuel
  require !(items.dropLast.any (· = true))
  expectOp "\x7d"

/-- Reads an argument of a class pattern; tells whether it is named. -/
def readClassItem (pattern : Reader Unit) : Reader Bool := do
  match ← peek, ← peekSecond with
  | .name _, .op "=" =>
    advance
    advance
    pattern
    return true
  | _, _ =>
    pattern
    return false

/-- Reads the arguments of a class pattern behind the opening parenthesis. Named ones stand last. -/
def readClassItems (pattern : Reader Unit) (fuel : Nat) : Reader Unit := do
  if ← skipOp ")" then return
  let (named, _) ← commaList startsPattern (readClassItem pattern) fuel
  require !((named.dropWhile (· = false)).any (· = false))
  expectOp ")"

/-- Reads a pattern that holds no alternatives outside brackets. -/
def readClosedPattern (literals : Reader Expr) (pattern : Reader Unit) (fuel : Nat) : Reader Unit := do
  if ← skipPatternLiteral literals then return
  if ← skipOp "(" then readPatternGroup pattern fuel
  else if ← skipOp "[" then readSequence pattern "]" fuel
  else if ← skipOp "\x7b" then readMapping literals pattern fuel
  else
    let name ← expectName
    if name = "_" then return
    let _ ← skipAttributes fuel
    if ← skipOp "(" then readClassItems pattern fuel
    else
      require !(← atOp "=")

/-- Reads alternatives with an optional name for what matches. -/
def readPattern (literals : Reader Expr) (pattern : Reader Unit) (fuel : Nat) : Reader Unit := do
  readClosedPattern literals pattern fuel
  iterate
    (fun _ => do
      if ← skipOp "|" then
        readClosedPattern literals pattern fuel
        return some ()
      return none)
    fuel ()
  if ← skipKeyword "as" then readCapture

/-- Reads a pattern; every level of nesting takes a token. -/
def patternAt (literals : Reader Expr) : Nat → Reader Unit
  | 0 => refuse
  | fuel + 1 => readPattern literals (patternAt literals fuel) (fuel + 1)

/-- Reads the patterns of a `case`: one, or a sequence without brackets. -/
def readCasePatterns (pattern : Reader Unit) (fuel : Nat) : Reader Unit := do
  let (items, trailing) ← commaList startsPattern (readSequenceItem pattern) fuel
  require (trailing || items ≠ [true])

end FragmentSearch.Source
