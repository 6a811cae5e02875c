import Utterance.Host.Octets

/-!
# Numbers with a fraction

A number is a quotient of natural numbers. It is rounded to a number of binary places as it is stored, and to a number
of decimal places as it is written; a tie goes to the even neighbour.
-/

namespace Utterance.Host
set_option autoImplicit false

/-- A quotient that is not below zero. -/
structure Quotient where
  numerator : Nat
  denominator : Nat
  deriving DecidableEq, Repr, Inhabited

/-- The natural number next to a quotient, of two the even one. -/
def roundedDiv (a b : Nat) : Nat :=
  let q := a / b
  let r := a % b
  if 2 * r < b then q
  else if b < 2 * r then q + 1
  else if q % 2 = 0 then q else q + 1

namespace Quotient

/-- The quotient times a power of a base. -/
def scaled (base : Nat) (power : Int) (a : Quotient) : Quotient :=
  if 0 ≤ power then ⟨a.numerator * Nat.pow base power.toNat, a.denominator⟩
  else ⟨a.numerator, a.denominator * Nat.pow base (-power).toNat⟩

/-- The natural number next to the quotient. -/
def rounded (a : Quotient) : Nat :=
  roundedDiv a.numerator a.denominator

/-- The quotient with some number of significant binary places. -/
def stored (places : Nat) (a : Quotient) : Quotient :=
  if a.numerator = 0 then a
  else
    let guess := (a.numerator.log2 : Int) - a.denominator.log2
    let low := a.scaled 2 ((places : Int) - 1 - guess)
    let power := if low.numerator < low.denominator * Nat.pow 2 (places - 1) then guess - 1 else guess
    let shift := (places : Int) - 1 - power
    scaled 2 (-shift) ⟨(a.scaled 2 shift).rounded, 1⟩

/-- The power of ten of the first digit. -/
def exponent (a : Quotient) : Int :=
  if a.numerator = 0 then 0
  else
    let guess := ((digitsOf 10 a.numerator).length : Int) - (digitsOf 10 a.denominator).length
    let scaled := a.scaled 10 (-guess)
    if scaled.numerator < scaled.denominator then guess - 1 else guess

/-- Digits with a point before the last `places` of them. -/
def pointed (places : Nat) (forcePoint : Bool) (n : Nat) : Octets :=
  let digits := padLeft (places + 1) (digitsOf 10 n) '0'
  let whole := digits.take (digits.length - places)
  if places = 0 then whole ++ (if forcePoint then ['.'] else [])
  else whole ++ '.' :: digits.drop (digits.length - places)

/-- The quotient with some number of decimal places. -/
def fixed (places : Nat) (forcePoint : Bool) (a : Quotient) : Octets :=
  pointed places forcePoint (a.scaled 10 places).rounded

/-- The digits of the quotient with some number of them after the first, and the power of ten of the first. -/
def significant (places : Nat) (a : Quotient) : Nat × Int :=
  let power := a.exponent
  let digits := (a.scaled 10 (places - power)).rounded
  if Nat.pow 10 (places + 1) ≤ digits then (digits / 10, power + 1) else (digits, power)

/-- The text of a power of ten. -/
def powerText (letter : Char) (power : Int) : Octets :=
  letter :: (if power < 0 then '-' else '+') :: padLeft 2 (digitsOf 10 power.natAbs) '0'

/-- The quotient with one digit before the point and a power of ten. -/
def scientific (letter : Char) (places : Nat) (forcePoint : Bool) (a : Quotient) : Octets :=
  let (digits, power) := a.significant places
  pointed places forcePoint digits ++ powerText letter power

/-- A text without the zeros at the end of its fraction. -/
def withoutZeros (text : Octets) : Octets :=
  if text.contains '.' then
    match (text.reverse.dropWhile (· = '0')).reverse with
    | trimmed => if trimmed.getLast? = some '.' then trimmed.dropLast else trimmed
  else text

/-- The shorter of the two ways to write the quotient with some number of significant digits. -/
def general (letter : Char) (digits : Nat) (alternate : Bool) (a : Quotient) : Octets :=
  let digits := max digits 1
  let (_, power) := a.significant (digits - 1)
  if -4 ≤ power && power < digits then
    let text := a.fixed (digits - 1 - power).toNat alternate
    if alternate then text else withoutZeros text
  else
    let (value, power) := a.significant (digits - 1)
    let text := pointed (digits - 1) alternate value
    (if alternate then text else withoutZeros text) ++ powerText letter power

end Quotient

end Utterance.Host
