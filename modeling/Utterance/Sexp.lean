/-!
# S-expressions

Pairs, the empty list and three kinds of atoms, written on one line (`dumps`). The members of a list are separated by
single spaces. A text stands in double quotes, with a backslash before a backslash or double quote and a letter for the
control characters that have one; every other character is written as it is.
-/

namespace Utterance
set_option autoImplicit false

/-- An S-expression. -/
inductive Sexp where
  | nil
  | cons (head tail : Sexp)
  | symbol (name : String)
  | text (value : String)
  | number (value : Int)
  deriving DecidableEq, Repr, Inhabited

namespace Sexp

/-- A proper list. -/
def ofList : List Sexp → Sexp
  | [] => .nil
  | head :: tail => .cons head (ofList tail)

/-- A character inside a text. -/
def textChar (c : Char) : List Char :=
  if c = '\\' then ['\\', '\\']
  else if c = '"' then ['\\', '"']
  else if c = '\x08' then ['\\', 'b']
  else if c = '\x0c' then ['\\', 'f']
  else if c = '\n' then ['\\', 'n']
  else if c = '\r' then ['\\', 'r']
  else if c = '\t' then ['\\', 't']
  else [c]

/-- The characters of an expression. With `inside`, those of the rest of a list that is already open. -/
def write (inside : Bool) : Sexp → List Char
  | .nil => if inside then [] else ['(', ')']
  | .cons head tail =>
    if inside then ' ' :: (head.write false ++ tail.write true)
    else '(' :: (head.write false ++ tail.write true) ++ [')']
  | .symbol name => (if inside then " . ".toList else []) ++ name.toList
  | .text value =>
    (if inside then " . ".toList else []) ++ '"' :: value.toList.flatMap textChar ++ ['"']
  | .number value => (if inside then " . ".toList else []) ++ (toString value).toList

/-- The expression on one line. -/
def render (expression : Sexp) : String :=
  String.ofList (expression.write false)

end Sexp

end Utterance
