import Utterance.Text.Encoding.Decode

/-!
# Octets

On the host a text is a sequence of bytes, whatever characters they stand for. A byte is written as the character with
its number, so that plain letters look as they do elsewhere. The commands of the host read and write such texts; only
the names of files and what is handed back are characters again.
-/

namespace Utterance.Host
set_option autoImplicit false

/-- A text of bytes, each as the character with its number. -/
abbrev Octets := List Char

/-- The octets of bytes. -/
def ofBytes (bytes : Text.Bytes) : Octets :=
  bytes.map fun byte => Char.ofNat byte.toNat

/-- The bytes of octets. -/
def toBytes (octets : Octets) : Text.Bytes :=
  octets.map fun c => UInt8.ofNat c.toNat

/-- The octets of a text. -/
def octets (text : String) : Octets :=
  ofBytes (text.toList.flatMap String.utf8EncodeChar)

/-- The text of octets; if they are no text, each octet stands for itself. -/
def toText (octets : Octets) : String :=
  match Text.Encoding.utf8.decode (toBytes octets) with
  | .ok text => text
  | .error _ => String.ofList octets

/-- The pieces of a text between separators, after pieces that are already cut and the start of one, last first. -/
def piecesFrom (separator : Char) : (piece : Octets) → (pieces : List Octets) → Octets → List Octets
  | piece, pieces, [] => (piece.reverse :: pieces).reverse
  | piece, pieces, c :: rest =>
    if c = separator then piecesFrom separator [] (piece.reverse :: pieces) rest
    else piecesFrom separator (c :: piece) pieces rest

/-- The pieces of a text between separators. -/
def splitOn (separator : Char) (text : Octets) : List Octets :=
  piecesFrom separator [] [] text

/-- The lines of a text, each without its newline. The last one need not have a newline. -/
def linesOf (text : Octets) (separator : Char := '\n') : List Octets :=
  let lines := splitOn separator text
  if lines.getLast? = some [] then lines.dropLast else lines

/-- Lines as a text, each with a newline. -/
def unlines (lines : List Octets) (separator : Char := '\n') : Octets :=
  lines.flatMap (· ++ [separator])

/-- Texts with a separator between them. -/
def joinWith (separator : Octets) (texts : List Octets) : Octets :=
  (texts.intersperse separator).flatten

/-- A character repeated. -/
def timesOf (count : Nat) (c : Char) : Octets :=
  List.replicate count c

/-- A text of at least some width, filled up on the left. -/
def padLeft (width : Nat) (text : Octets) (filler : Char := ' ') : Octets :=
  timesOf (width - text.length) filler ++ text

/-- A text of at least some width, filled up on the right. -/
def padRight (width : Nat) (text : Octets) : Octets :=
  text ++ timesOf (width - text.length) ' '

/-- Whether a character separates words. -/
def isSpace (c : Char) : Bool :=
  c = ' ' || ('\t' ≤ c && c ≤ '\r')

/-- Whether a character is printed as it is. -/
def isPrinted (c : Char) : Bool :=
  ' ' ≤ c && c ≤ '~'

/-- The value of a digit in any base up to sixteen. -/
def digitValue? (c : Char) : Option Nat :=
  if '0' ≤ c && c ≤ '9' then some (c.toNat - '0'.toNat)
  else if 'a' ≤ c && c ≤ 'f' then some (c.toNat - 'a'.toNat + 10)
  else if 'A' ≤ c && c ≤ 'F' then some (c.toNat - 'A'.toNat + 10)
  else none

/-- Whether a character is a digit in some base. -/
def isDigitOf (base : Nat) (c : Char) : Bool :=
  (digitValue? c).any (· < base)

/-- The number that digits stand for. -/
def numberOf (base : Nat) (digits : Octets) : Nat :=
  digits.foldl (fun value c => value * base + (digitValue? c).getD 0) 0

/-- The number of a text of decimal digits. -/
def natural? (text : Octets) : Option Nat :=
  if text.isEmpty || !text.all (isDigitOf 10) then none else some (numberOf 10 text)

/-- The digits of a number in some base. -/
def digitsOf (base n : Nat) : Octets :=
  Nat.toDigits base n

/-- The order of two texts by their octets. -/
def compareOctets : Octets → Octets → Ordering
  | [], [] => .eq
  | [], _ :: _ => .lt
  | _ :: _, [] => .gt
  | a :: as, b :: bs => if a < b then .lt else if b < a then .gt else compareOctets as bs

/-- Whether one text does not come after another. -/
def inOctetOrder (a b : Octets) : Bool :=
  compareOctets a b != .gt

end Utterance.Host
