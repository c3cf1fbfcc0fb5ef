/-!
# Syntax trees of Python source

Expressions are kept whole, because signatures show them and annotations are searched for names. Of
statements only those are kept apart that fragments are made of: classes, functions, assignments and
bare expressions (documentation); all others are `other`, with the statements of their blocks. Statements
carry the lines they span.
-/

namespace FragmentSearch.Source

/-! ## 1. Expressions -/

/-- Constants. The text of a literal is a list of code points, because an escape may denote a lone
surrogate. -/
inductive Constant where
  | none
  | bool (b : Bool)
  | ellipsis
  | integer (n : Nat)
  | real (x : Float)
  | imaginary (x : Float)
  | text (codes : List Nat) (unicodeMark : Bool)
  | bytes (values : List Nat)

/-- Operators in front of their operand. -/
inductive UnaryOp where
  | plus | minus | invert | not
  deriving DecidableEq

/-- Operators between two operands. -/
inductive BinaryOp where
  | add | sub | mul | matMul | div | floorDiv | mod | pow | shiftLeft | shiftRight | bitOr | bitXor | bitAnd
  deriving DecidableEq

/-- Comparisons. -/
inductive CompareOp where
  | eq | notEq | lt | ltE | gt | gtE | is | isNot | isIn | notIn
  deriving DecidableEq

/-- How a parameter takes its argument. -/
inductive ParameterKind where
  | positionalOnly | ordinary | rest | keywordOnly | keywords
  deriving DecidableEq

/-- The brackets of a comprehension without keys. -/
inductive ComprehensionKind where
  | list | set | generator
  deriving DecidableEq

mutual

/-- Expressions. -/
inductive Expr where
  | name (id : String)
  | constant (c : Constant)
  /-- A format string; its parts are texts and formatted values. -/
  | joined (parts : List Expr)
  /-- A value inside a format string, with its conversion mark and its format, itself a format string. -/
  | formatted (value : Expr) (conversion : Option Char) (format : Option Expr)
  | attribute (value : Expr) (name : String)
  | subscript (value : Expr) (index : Expr)
  | call (function : Expr) (arguments : List Expr) (keywords : List Keyword)
  | starred (value : Expr)
  | list (items : List Expr)
  | tuple (items : List Expr)
  | set (items : List Expr)
  | dict (entries : List Entry)
  | comprehension (kind : ComprehensionKind) (item : Expr) (clauses : List Clause)
  | dictComprehension (key value : Expr) (clauses : List Clause)
  | unary (op : UnaryOp) (operand : Expr)
  | binary (op : BinaryOp) (left right : Expr)
  | compare (first : Expr) (rest : List Comparison)
  | conjunction (operands : List Expr)
  | disjunction (operands : List Expr)
  | conditional (test body otherwise : Expr)
  | lambda (parameters : List Parameter) (body : Expr)
  | slice (lower upper step : Option Expr)
  | assignment (target value : Expr)
  | await (value : Expr)
  | yield (value : Option Expr)
  | yieldFrom (value : Expr)

/-- A named argument, or an unpacked mapping if there is no name. -/
inductive Keyword where
  | mk (name : Option String) (value : Expr)

/-- An entry of a dictionary, or an unpacked mapping if there is no key. -/
inductive Entry where
  | mk (key : Option Expr) (value : Expr)

/-- A comparison with its right-hand side. -/
inductive Comparison where
  | mk (op : CompareOp) (right : Expr)

/-- A `for` of a comprehension with its conditions. -/
inductive Clause where
  | mk (isAsync : Bool) (target source : Expr) (conditions : List Expr)

/-- A parameter with its annotation and its default. -/
inductive Parameter where
  | mk (kind : ParameterKind) (name : String) (type : Option Expr) (default : Option Expr)

end

instance : Inhabited Expr := ⟨.constant .none⟩

namespace Parameter

/-- How the parameter takes its argument. -/
def kind : Parameter → ParameterKind
  | .mk k _ _ _ => k

/-- The annotation of a parameter. -/
def type : Parameter → Option Expr
  | .mk _ _ a _ => a

/-- The default of a parameter. -/
def default : Parameter → Option Expr
  | .mk _ _ _ d => d

end Parameter

/-! ## 2. Statements -/

/-- The lines of a statement, both counted from one. -/
structure Extent where
  first : Nat
  last : Nat
  deriving DecidableEq, Repr

/-- The head of a function. -/
structure FunctionHead where
  isAsync : Bool
  name : String
  parameters : List Parameter
  result : Option Expr

/-- The head of a class. -/
structure ClassHead where
  name : String
  bases : List Expr
  keywords : List Keyword

/-- Statements. Decorators are kept by the lines on which they begin. -/
inductive Stmt where
  | classDef (extent : Extent) (decorators : List Nat) (head : ClassHead) (body : List Stmt)
  | functionDef (extent : Extent) (decorators : List Nat) (head : FunctionHead) (body : List Stmt)
  | assign (extent : Extent) (targets : List Expr) (value : Expr)
  /-- An annotated assignment; `bare` tells that the target is a name without parentheses. -/
  | annotate (extent : Extent) (target type : Expr) (value : Option Expr) (bare : Bool)
  | expression (extent : Extent) (value : Expr)
  /-- Any other statement; the statements of all its blocks stand in a row. -/
  | other (extent : Extent) (blocks : List Stmt)

/-- The statements of a source text. -/
abbrev Module := List Stmt

end FragmentSearch.Source
