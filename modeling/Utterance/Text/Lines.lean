/-!
# Lines and rows

A text is cut in two ways. `lines` ends a line at every line separator (`splitlines`), a carriage return with its line
feed counting once, and a separator at the very end starts no further line. `rows` cuts at line feeds only and a line
feed at the end is followed by an empty row. The two agree on texts whose only separator is the line feed.
-/

namespace Utterance.Text
set_option autoImplicit false

/-- The characters that end a line. -/
def isLineEnd (c : Char) : Bool :=
  let n := c.toNat
  (10 ≤ n && n ≤ 13) || (0x1c ≤ n && n ≤ 0x1e) || n == 0x85 || n == 0x2028 || n == 0x2029

/-- Puts a character in front of the first line. -/
def consFirst (c : Char) : List (List Char) → List (List Char)
  | [] => [[c]]
  | line :: rest => (c :: line) :: rest

/-- The lines of a text, without their separators. -/
def lines : List Char → List (List Char)
  | [] => []
  | '\r' :: '\n' :: rest => [] :: lines rest
  | c :: rest => if isLineEnd c then [] :: lines rest else consFirst c (lines rest)

/-- The pieces between line feeds; there is always at least one. -/
def rows : List Char → List (List Char)
  | [] => [[]]
  | c :: rest => if c = '\n' then [] :: rows rest else consFirst c (rows rest)

/-- Every carriage return, with or without a line feed after it, as one line feed. -/
def unifyNewlines : List Char → List Char
  | [] => []
  | '\r' :: '\n' :: rest => '\n' :: unifyNewlines rest
  | c :: rest => (if c = '\r' then '\n' else c) :: unifyNewlines rest

end Utterance.Text
