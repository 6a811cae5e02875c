/-!
# Decimal numbers

Numbers with a fixed number of places, as they are written for times and limits.
-/

namespace Utterance
set_option autoImplicit false

/-- A decimal number, `digits` divided by ten to the power of `places`. -/
structure Decimal where
  digits : Int
  places : Nat := 0
  deriving DecidableEq, Repr, Inhabited

namespace Decimal

/-- What the digits are divided by. -/
def divisor (a : Decimal) : Nat :=
  Nat.pow 10 a.places

/-- Whether one number is less than another. -/
def less (a b : Decimal) : Bool :=
  a.digits * b.divisor < b.digits * a.divisor

/-- The size of the number with a point, for a number that has places. -/
def positional (a : Decimal) : String :=
  let fraction := toString (a.digits.natAbs % a.divisor)
  toString (a.digits.natAbs / a.divisor) ++ "." ++ String.ofList (List.replicate (a.places - fraction.length) '0') ++
    fraction

/-- The size of the number with a power of ten, for a number that has places. -/
def scientific (a : Decimal) : String :=
  let digits := (toString a.digits.natAbs).toList
  let power := toString (a.places + 1 - digits.length)
  String.ofList (digits.take 1) ++ (if digits.length = 1 then "" else "." ++ String.ofList (digits.drop 1)) ++ "e-" ++
    (if power.length = 1 then "0" else "") ++ power

/-- The number as text. A number with places has a point, or below one in ten thousand a power of ten. -/
def text (a : Decimal) : String :=
  if a.places = 0 then toString a.digits
  else
    let small := a.digits != 0 && (toString a.digits.natAbs).length + 4 ≤ a.places
    (if a.digits < 0 then "-" else "") ++ if small then a.scientific else a.positional

end Decimal

end Utterance
