/-!
# Tokens of source modules

The words of a module's text: names, keywords, numbers, string literals, operators, and the marks
for the end of a line and for the bounds of an indented block.
-/
namespace RetentionPlan.Source

inductive Literal where
  | text (value : String)
  | bytes
  /-- A formatted string, with the text of each expression in it. -/
  | formatted (expressions : List (List Char))
  deriving DecidableEq, Repr

/-- A single name. A dot joins names, so there is none in it. -/
structure Identifier where
  text : String
  dotless : '.' ∉ text.toList
  deriving DecidableEq, Repr

/-- The name of the given characters. -/
def Identifier.ofChars? (cs : List Char) : Option Identifier :=
  if h : '.' ∈ cs then none else some ⟨String.ofList cs, by rwa [String.toList_ofList]⟩

inductive Token where
  /-- A name; `plain` if it is written in ASCII, as words with a meaning in places have to be. -/
  | name (id : Identifier) (plain : Bool)
  | keyword (word : String)
  | number (imaginary : Bool)
  | string (literal : Literal)
  | operator (symbol : String)
  | newline
  | indent
  | dedent
  deriving DecidableEq, Repr

def keywords : List String :=
  ["False", "None", "True", "and", "as", "assert", "async", "await", "break", "class", "continue",
    "def", "del", "elif", "else", "except", "finally", "for", "from", "global", "if", "import",
    "in", "is", "lambda", "nonlocal", "not", "or", "pass", "raise", "return", "try", "while",
    "with", "yield"]

/-- Operators of three characters, then of two, then of one. -/
def operators : List String :=
  ["**=", "//=", "<<=", ">>=", "...",
    "!=", "%=", "&=", "**", "*=", "+=", "-=", "->", "//", "/=", "<<", "<=", "<>", "==", ">=", ">>",
    "@=", "^=", "|=", ":=",
    "%", "&", "(", ")", "*", "+", ",", "-", ".", "/", ":", ";", "<", "=", ">", "@", "[", "]", "^",
    "\x7b", "|", "\x7d", "~"]

def augmentedOperators : List String :=
  ["+=", "-=", "*=", "@=", "/=", "%=", "&=", "|=", "^=", "<<=", ">>=", "**=", "//="]

end RetentionPlan.Source
