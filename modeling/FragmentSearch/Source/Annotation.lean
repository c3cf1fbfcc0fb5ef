import FragmentSearch.Source.Tree
import FragmentSearch.Text.Case
import FragmentSearch.Text.Words

/-!
# The types that annotations name

An annotation is searched level by level, outermost expressions first, for names that begin with a
capital letter: names, attributes, and texts, which are forward references. The helpers of typing are
left out, since they never name a type of the project.
-/

namespace FragmentSearch.Source

open FragmentSearch.Text

/-! ## 1. Expressions by level -/

/-- Two lists of levels side by side. -/
def besides {α : Type} : List (List α) → List (List α) → List (List α)
  | [], b => b
  | a, [] => a
  | a :: as, b :: bs => (a ++ b) :: besides as bs

mutual

/-- The expressions inside an expression by their depth, itself first. Arguments with names, clauses
and parameter lists count as levels of their own. -/
def Expr.levels : Expr → List (List Expr)
  | .name id => [[.name id]]
  | .constant c => [[.constant c]]
  | .joined parts => [.joined parts] :: levelsOfAll parts
  | .formatted value conversion format =>
    [.formatted value conversion format] :: besides value.levels (levelsOfOption format)
  | .attribute value name => [.attribute value name] :: value.levels
  | .subscript value index => [.subscript value index] :: besides value.levels index.levels
  | .call function arguments keywords =>
    [.call function arguments keywords] ::
      besides function.levels (besides (levelsOfAll arguments) (levelsOfKeywords keywords))
  | .starred value => [.starred value] :: value.levels
  | .list items => [.list items] :: levelsOfAll items
  | .tuple items => [.tuple items] :: levelsOfAll items
  | .set items => [.set items] :: levelsOfAll items
  | .dict entries => [.dict entries] :: besides (levelsOfKeys entries) (levelsOfValues entries)
  | .comprehension kind item clauses =>
    [.comprehension kind item clauses] :: besides item.levels (levelsOfClauses clauses)
  | .dictComprehension key value clauses =>
    [.dictComprehension key value clauses] ::
      besides key.levels (besides value.levels (levelsOfClauses clauses))
  | .unary op operand => [.unary op operand] :: operand.levels
  | .binary op left right => [.binary op left right] :: besides left.levels right.levels
  | .compare first rest => [.compare first rest] :: besides first.levels (levelsOfComparisons rest)
  | .conjunction operands => [.conjunction operands] :: levelsOfAll operands
  | .disjunction operands => [.disjunction operands] :: levelsOfAll operands
  | .conditional test body otherwise =>
    [.conditional test body otherwise] :: besides test.levels (besides body.levels otherwise.levels)
  | .lambda parameters body =>
    [.lambda parameters body] ::
      besides ([] :: besides (levelsOfDefaults true parameters) (levelsOfDefaults false parameters)) body.levels
  | .slice lower upper step =>
    [.slice lower upper step] ::
      besides (levelsOfOption lower) (besides (levelsOfOption upper) (levelsOfOption step))
  | .assignment target value => [.assignment target value] :: besides target.levels value.levels
  | .await value => [.await value] :: value.levels
  | .yield value => [.yield value] :: levelsOfOption value
  | .yieldFrom value => [.yieldFrom value] :: value.levels

/-- The levels of expressions side by side. -/
def levelsOfAll : List Expr → List (List Expr)
  | [] => []
  | e :: r => besides e.levels (levelsOfAll r)

/-- The levels of an expression that may be missing. -/
def levelsOfOption : Option Expr → List (List Expr)
  | none => []
  | some e => e.levels

/-- The levels of named arguments. -/
def levelsOfKeywords : List Keyword → List (List Expr)
  | [] => []
  | .mk _ value :: r => besides ([] :: value.levels) (levelsOfKeywords r)

/-- The levels of the keys of a dictionary. -/
def levelsOfKeys : List Entry → List (List Expr)
  | [] => []
  | .mk key _ :: r => besides (levelsOfOption key) (levelsOfKeys r)

/-- The levels of the values of a dictionary. -/
def levelsOfValues : List Entry → List (List Expr)
  | [] => []
  | .mk _ value :: r => besides value.levels (levelsOfValues r)

/-- The levels of the right-hand sides of comparisons. -/
def levelsOfComparisons : List Comparison → List (List Expr)
  | [] => []
  | .mk _ right :: r => besides right.levels (levelsOfComparisons r)

/-- The levels of clauses. -/
def levelsOfClauses : List Clause → List (List Expr)
  | [] => []
  | .mk _ target source conditions :: r =>
    besides ([] :: besides target.levels (besides source.levels (levelsOfAll conditions))) (levelsOfClauses r)

/-- The levels of the defaults of parameters: of those that the caller names, or of the others. -/
def levelsOfDefaults (named : Bool) : List Parameter → List (List Expr)
  | [] => []
  | .mk kind _ _ default :: r =>
    besides (if named = (kind = .keywordOnly) then levelsOfOption default else []) (levelsOfDefaults named r)

end

/-- The expressions inside an expression, level by level. -/
def Expr.inBreadth (e : Expr) : List Expr := e.levels.flatten

/-! ## 2. Names of types -/

/-- Capitalised helpers that never name a type of the project. -/
def typingNames : List String :=
  ["Any", "Optional", "Union", "List", "Dict", "Set", "FrozenSet", "Tuple", "Type", "Callable", "Iterable",
    "Iterator", "Generator", "AsyncIterator", "AsyncGenerator", "Sequence", "Mapping", "MutableMapping",
    "Literal", "ClassVar", "Final", "Awaitable", "Coroutine", "None", "True", "False", "Self", "TypeVar",
    "Generic", "Annotated"]

/-- The character of a code point. A lone surrogate is no character, though a text of the program may hold one: here the
replacement character U+FFFD stands for it. -/
def charOfCode (code : Nat) : Char :=
  if 0xd800 ≤ code ∧ code ≤ 0xdfff then Char.ofNat 0xfffd else Char.ofNat code

/-- The type that a forward reference names: what stands before its first bracket, of that the part
after the last point. -/
def forwardName (codes : List Nat) : List Char :=
  let trimmed := trimRight (trimLeft (codes.map charOfCode))
  let head := trimmed.takeWhile (· ≠ '[')
  (head.reverse.takeWhile (· ≠ '.')).reverse

/-- The name that an expression mentions by itself. -/
def Expr.mention? : Expr → Option (List Char)
  | .name id => some id.toList
  | .attribute _ attr => some attr.toList
  | .constant (.text codes _) => some (forwardName codes)
  | _ => none

/-- Does the name name a type of the project? -/
def isTypeName (name : List Char) : Bool :=
  match name with
  | [] => false
  | c :: _ => isUppercase c && !typingNames.contains (String.ofList name)

/-- Each element at its first place. -/
def unique {α : Type} [BEq α] (xs : List α) : List α :=
  (xs.foldl (fun seen x => if seen.contains x then seen else x :: seen) []).reverse

/-- The types that annotations name, each once, in the order in which they are found. -/
def annotationTypes (annotations : List Expr) : List String :=
  let names := annotations.flatMap fun a => a.inBreadth.filterMap Expr.mention?
  unique ((names.filter isTypeName).map String.ofList)

end FragmentSearch.Source
