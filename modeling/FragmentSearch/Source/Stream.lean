import FragmentSearch.Source.Token

/-!
# Reading tokens

A reader takes tokens from the front of a list and gives a value, or fails without a trace: the
alternatives of the grammar are tried in order, and a text that no alternative fits has no tree.

The stream remembers the line on which the last token ended that is part of a statement, so that a
statement knows its own last line.
-/

namespace FragmentSearch.Source

/-- The tokens that remain, and the line on which the last significant one ended. -/
structure Stream where
  rest : List Token
  lastLine : Nat

/-- A reader of tokens. What it leaves is the end of what it was given. -/
structure Reader (α : Type) where
  run : Stream → Option (α × Stream)
  suffix : ∀ {s s' : Stream} {a : α}, run s = some (a, s') → s'.rest <:+ s.rest

namespace Reader

/-- Reads by looking at what remains; no token is taken. -/
def look {α : Type} (f : Stream → Option α) : Reader α where
  run s := (f s).map (·, s)
  suffix h := by
    obtain ⟨_, -, he⟩ := Option.map_eq_some_iff.mp h
    cases he
    exact List.suffix_rfl

/-- One reader after another. -/
def andThen {α β : Type} (x : Reader α) (f : α → Reader β) : Reader β where
  run s := match x.run s with
    | some (a, s) => (f a).run s
    | none => none
  suffix h := by
    split at h
    · next hx => exact ((f _).suffix h).trans (x.suffix hx)
    · cases h

instance : Monad Reader where
  pure a := look fun _ => some a
  bind := andThen

/-- Fails. -/
def refuse {α : Type} : Reader α := look fun _ => none

/-- Goes on only if the condition holds. -/
def require (b : Bool) : Reader Unit := if b then pure () else refuse

/-- The value of an option, or failure. -/
def ofOption {α : Type} (x : Option α) : Reader α := look fun _ => x

/-- The first of two readers that does not fail. -/
def orElse {α : Type} (a b : Reader α) : Reader α where
  run s := match a.run s with
    | some r => some r
    | none => b.run s
  suffix h := by
    split at h
    · next ha =>
        cases h
        exact a.suffix ha
    · exact b.suffix h

/-- Reads what can be read, or nothing. -/
def attempt {α : Type} (a : Reader α) : Reader (Option α) := orElse (do return some (← a)) (pure none)

/-- The next lexeme. -/
def peek : Reader Lexeme := look fun s =>
  match s.rest with
  | [] => some .endMarker
  | t :: _ => some t.lexeme

/-- The lexeme after the next. -/
def peekSecond : Reader Lexeme := look fun s =>
  match s.rest with
  | _ :: t :: _ => some t.lexeme
  | _ => some .endMarker

/-- The line of the next token. -/
def peekLine : Reader Nat := look fun s =>
  match s.rest with
  | [] => some s.lastLine
  | t :: _ => some t.line

/-- The line on which the last significant token ended. -/
def lastLine : Reader Nat := look fun s => some s.lastLine

/-- Takes one token. -/
def advance : Reader Unit where
  run s := match s.rest with
    | [] => none
    | t :: r =>
      let last := match t.lexeme with
        | .newline => s.lastLine
        | .indent => s.lastLine
        | .dedent => s.lastLine
        | .endMarker => s.lastLine
        | _ => t.endLine
      some ((), ⟨r, last⟩)
  suffix h := by
    split at h
    · cases h
    · next t r hrest =>
        cases h
        rw [hrest]
        exact List.suffix_cons t r

/-! ## Tests and steps for single lexemes -/

end Reader

/-- Is the lexeme the given operator? -/
def Lexeme.isOp (symbol : String) : Lexeme → Bool
  | .op s => s = symbol
  | _ => false

/-- Is the lexeme the given keyword? -/
def Lexeme.isKeyword (word : String) : Lexeme → Bool
  | .keyword w => w = word
  | _ => false

/-- Is the lexeme the given name? -/
def Lexeme.isName (word : String) : Lexeme → Bool
  | .name w => w = word
  | _ => false

namespace Reader

/-- Is the next lexeme this operator? -/
def atOp (symbol : String) : Reader Bool := return (← peek).isOp symbol

/-- Is the next lexeme this keyword? -/
def atKeyword (word : String) : Reader Bool := return (← peek).isKeyword word

/-- Takes the operator if it comes next. -/
def skipOp (symbol : String) : Reader Bool := do
  if ← atOp symbol then
    advance
    return true
  return false

/-- Takes the keyword if it comes next. -/
def skipKeyword (word : String) : Reader Bool := do
  if ← atKeyword word then
    advance
    return true
  return false

/-- Takes the operator, which has to come next. -/
def expectOp (symbol : String) : Reader Unit := do require (← skipOp symbol)

/-- Takes the keyword, which has to come next. -/
def expectKeyword (word : String) : Reader Unit := do require (← skipKeyword word)

/-- Takes a name, which has to come next. -/
def expectName : Reader String := do
  match ← peek with
  | .name id => do
    advance
    return id
  | _ => refuse

/-- Takes the end of a line, which has to come next. -/
def expectNewline : Reader Unit := do
  match ← peek with
  | .newline => advance
  | _ => refuse

/-- The entry of a table whose operator comes next; the operator is taken. -/
def skipOpOf {α : Type} (table : List (String × α)) : Reader (Option α) := do
  match ← peek with
  | .op s =>
    match table.lookup s with
    | some a => do
      advance
      return some a
    | none => return none
  | _ => return none

/-- Repeats a step while it gives a new state; the fuel bounds the number of rounds. -/
def iterate {α : Type} (step : α → Reader (Option α)) : Nat → α → Reader α
  | 0, a => pure a
  | fuel + 1, a => do
    match ← step a with
    | some b => iterate step fuel b
    | none => pure a

/-- Items separated by commas, a comma at the end allowed; `starts` tells whether an item can begin
with a lexeme. Gives the items and whether a comma ended them. -/
def commaList {α : Type} (starts : Lexeme → Bool) (item : Reader α) (fuel : Nat) : Reader (List α × Bool) := do
  let first ← item
  let (items, trailing) ← iterate
    (fun (items, trailing) => do
      if trailing then
        if starts (← peek) then return some ((← item) :: items, false)
        return none
      if ← skipOp "," then return some (items, true)
      return none)
    (2 * fuel) ([first], false)
  return (items.reverse, trailing)

end Reader

end FragmentSearch.Source
