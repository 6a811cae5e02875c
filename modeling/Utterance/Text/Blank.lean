/-!
# Blank characters

White space in the wide sense: the ASCII controls that separate, the Unicode spaces and the line and
paragraph separators. A line is blank when nothing is left after `strip`.
-/

namespace Utterance.Text
set_option autoImplicit false

/-- White space, in and beyond ASCII. -/
def isBlank (c : Char) : Bool :=
  let n := c.toNat
  (9 ≤ n && n ≤ 13) || (0x1c ≤ n && n ≤ 0x20) || n == 0x85 || n == 0xa0 || n == 0x1680 ||
    (0x2000 ≤ n && n ≤ 0x200a) || n == 0x2028 || n == 0x2029 || n == 0x202f || n == 0x205f || n == 0x3000

/-- The text without the blanks at its start. -/
def stripStart (text : List Char) : List Char :=
  text.dropWhile isBlank

/-- The text without the blanks at both ends. -/
def strip (text : List Char) : List Char :=
  (stripStart (stripStart text).reverse).reverse

end Utterance.Text
