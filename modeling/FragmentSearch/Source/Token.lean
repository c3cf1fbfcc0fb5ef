/-!
# Lexemes of Python source

What the lexer produces and the parser consumes: names, keywords, numbers, quoted literals, operators,
and the three marks for the layout of lines. Every token carries the lines on which it begins and ends.
-/

namespace FragmentSearch.Source

/-- A number as it is denoted. -/
inductive Number where
  | integer (value : Nat)
  | real (value : Float)
  | imaginary (value : Float)

/-- A quoted literal: its marks and the characters between the quotes, escapes still in place. -/
structure Literal where
  raw : Bool
  bytes : Bool
  format : Bool
  /-- The lower-case mark `u` stands in front. -/
  unicode : Bool
  body : List Char

/-- The kinds of lexemes. -/
inductive Lexeme where
  | name (id : String)
  | keyword (word : String)
  | number (n : Number)
  | literal (l : Literal)
  | op (symbol : String)
  | newline
  | indent
  | dedent
  | endMarker

/-- A lexeme with the lines of its first and its last character. -/
structure Token where
  lexeme : Lexeme
  line : Nat
  endLine : Nat

/-- The words that are no names. -/
def keywordList : List String :=
  ["False", "None", "True", "and", "as", "assert", "async", "await", "break", "class", "continue", "def",
    "del", "elif", "else", "except", "finally", "for", "from", "global", "if", "import", "in", "is", "lambda",
    "nonlocal", "not", "or", "pass", "raise", "return", "try", "while", "with", "yield"]

/-- The operators of three, of two and of one character, the longer ones first. -/
def operators : List String :=
  ["**=", "//=", ">>=", "<<=", "...", "!=", "%=", "&=", "**", "*=", "+=", "-=", "->", "//", "/=", ":=", "<<",
    "<=", "<>", "==", ">=", ">>", "@=", "^=", "|=", "%", "&", "(", ")", "*", "+", ",", "-", ".", "/", ":", ";",
    "<", "=", ">", "@", "[", "]", "^", "\x7b", "|", "\x7d", "~"]

end FragmentSearch.Source
