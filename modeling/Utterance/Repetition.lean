/-!
# Repetition

How often an item of a pattern may be said. A range has both ends; the optional item is the range from 0 to 1.
Tables built by hand may carry a repetition of a kind that nothing knows how to lower, which is kept by its name.
-/

namespace Utterance
set_option autoImplicit false

/-- The repeat operator on an item (`Repeat`). -/
inductive Repetition where
  | once
  | range (least most : Int)
  | zeroOrMore
  | oneOrMore
  | other (kind : String) (least most : Int)
  deriving DecidableEq, Repr, Inhabited

namespace Repetition

/-- Exactly `count` times. -/
def exactly (count : Int) : Repetition := .range count count

/-- At most once. -/
def optional : Repetition := .range 0 1

end Repetition

end Utterance
