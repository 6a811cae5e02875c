/-!
# Capacity

Counts and positions are signed machine words, what is repeated has to fit into memory, groups nest as deeply as the
stack allows, and a number is read or written with a bounded number of digits. Numbers themselves have no bound, so each
use of one as a count, as a position or as a text is checked where it is made. How much memory and stack there is
differs from machine to machine and is left open as `Limits`. Only what is made by repetition is measured against it:
the productions of one repeated item, the lines above a place, and the marks under it. Whatever else is put together
always has room.
-/

namespace Utterance
set_option autoImplicit false

/-- What a machine has room for. -/
class Limits where
  /-- the most members of a list -/
  cells : Nat
  /-- the most characters of a text -/
  characters : Nat
  /-- the most groups of a pattern that the walk over it can be inside of -/
  nesting : Nat
  /-- whether there is room for the productions that say an item from `least` up to `count` times -/
  holds : (least count : Int) → Bool

namespace Workstation

/-- A machine with 64 GiB of memory and a stack of a thousand calls, of which a group takes ten. A symbol takes a
machine word, and the productions of a repeated item have as many of them as the numbers of times add up to. -/
scoped instance limits : Limits where
  cells := 8589934592
  characters := 68719476736
  nesting := 97
  holds least count := (least + count) * (count + 1 - least) ≤ 2 * 8589934592

end Workstation

/-- Counts and positions are below this bound, and not below its opposite. -/
def indexBound : Int := 9223372036854775808

/-- Whether a number can be a count or a position. -/
def isIndexSized (n : Int) : Bool :=
  -indexBound ≤ n && n < indexBound

/-- The most digits that a number may be read or written with. -/
def digitLimit : Nat := 4300

/-- Whether a number can be written. -/
def isWritable (n : Int) : Bool :=
  n.natAbs < Nat.pow 10 digitLimit

/-- Why a number of things cannot be made. -/
inductive CapacityFault where
  /-- the number is no machine word -/
  | notIndexSized
  /-- the things do not fit into memory -/
  | outOfMemory
  deriving DecidableEq, Repr, Inhabited

/-- What is said about a number that is no machine word. -/
def notIndexSizedMessage : String := "cannot fit 'int' into an index-sized integer"

/-- What is said about it. -/
def CapacityFault.message : CapacityFault → String
  | .notIndexSized => notIndexSizedMessage
  | .outOfMemory => ""

/-- Why there is no room for `count` things. -/
def roomFault? (room : Nat) (count : Int) : Option CapacityFault :=
  if room < count then some .outOfMemory else none

/-- Why a thing cannot be repeated `count` times. Of a number below zero nothing is made. -/
def capacityFault? (room : Nat) (count : Int) : Option CapacityFault :=
  if isIndexSized count then roomFault? room count else some .notIndexSized

/-- Why an item cannot be said `count` times, after it is said `least` times, once more and so on. -/
def repetitionFault? [Limits] (least count : Int) : Option CapacityFault :=
  if isIndexSized count then if Limits.holds least count then none else some .outOfMemory else some .notIndexSized

end Utterance
