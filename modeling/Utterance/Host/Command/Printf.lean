import Utterance.Host.Call
import Utterance.Host.Rational

/-!
# Formats

A format is printed with its escapes replaced and its directives filled with arguments, and again as long as it takes
arguments and some are left. The command of its own and the one inside a shell differ in a few escapes and directives,
in how exactly fractions are stored, and in what they say about arguments that are no numbers.
-/

namespace Utterance.Host.Printf
set_option autoImplicit false

/-- The two commands that print formats. -/
inductive Dialect where
  | standalone
  | inShell
  deriving DecidableEq, Repr, Inhabited

/-- What an escape gives: an octet and the rest, the end of all output, or nothing known. -/
inductive Escape where
  | octet (c : Char) (rest : Octets)
  | finish
  | unknown
  | missingHex
  deriving DecidableEq, Repr, Inhabited

/-- The octet of a number. -/
def octetOf (n : Nat) : Char :=
  Char.ofNat (n % 256)

/-- The character that a letter after a backslash stands for. -/
def escapeLetter? : Char → Option Char
  | 'a' => some '\x07'
  | 'b' => some '\x08'
  | 'e' => some '\x1b'
  | 'f' => some '\x0c'
  | 'n' => some '\n'
  | 'r' => some '\r'
  | 't' => some '\t'
  | 'v' => some '\x0b'
  | '\\' => some '\\'
  | _ => none

/-- The octet of up to `most` digits of a base, and the rest. -/
def digitsEscape (base most : Nat) (text : Octets) : Escape :=
  let digits := (text.take most).takeWhile (isDigitOf base)
  .octet (octetOf (numberOf base digits)) (text.drop digits.length)

/-- The escape after a backslash. With `zeroFirst` a zero may precede three octal digits. -/
def readEscape (hex quote finish zeroFirst : Bool) : Octets → Escape
  | [] => .unknown
  | 'c' :: _ => if finish then .finish else .unknown
  | 'x' :: rest =>
    if !hex then .unknown
    else if (rest.head?).any (isDigitOf 16) then digitsEscape 16 2 rest
    else .missingHex
  | '"' :: rest => if quote then .octet '"' rest else .unknown
  | '0' :: rest => if zeroFirst then digitsEscape 8 3 rest else digitsEscape 8 3 ('0' :: rest)
  | c :: rest =>
    if isDigitOf 8 c then digitsEscape 8 3 (c :: rest)
    else
      match escapeLetter? c with
      | some character => .octet character rest
      | none => .unknown

/-- A text with its escapes replaced, and whether it ends all output; at most `fuel` characters are read. -/
def replaceEscapes (read : Octets → Escape) : (fuel : Nat) → Octets → Octets × Bool
  | 0, _ => ([], false)
  | _, [] => ([], false)
  | fuel + 1, '\\' :: rest =>
    match read rest with
    | .octet c rest =>
      let (more, finished) := replaceEscapes read fuel rest
      (c :: more, finished)
    | .finish => ([], true)
    | _ =>
      let (more, finished) := replaceEscapes read fuel rest
      ('\\' :: more, finished)
  | fuel + 1, c :: rest =>
    let (more, finished) := replaceEscapes read fuel rest
    (c :: more, finished)

/-- How a directive is to be filled in. -/
structure Shape where
  left : Bool := false
  zero : Bool := false
  plus : Bool := false
  blank : Bool := false
  alternate : Bool := false
  width : Nat := 0
  precision : Option Nat := none
  deriving DecidableEq, Repr, Inhabited

namespace Shape

/-- The shape with a flag. -/
def withFlag (shape : Shape) : Char → Option Shape
  | '-' => some { shape with left := true }
  | '0' => some { shape with zero := true }
  | '+' => some { shape with plus := true }
  | ' ' => some { shape with blank := true }
  | '#' => some { shape with alternate := true }
  | _ => none

/-- A text of the width of the shape. -/
def fitted (shape : Shape) (text : Octets) : Octets :=
  if shape.left then padRight shape.width text else padLeft shape.width text

/-- A number of the width of the shape: what precedes its digits, and its digits. -/
def fittedNumber (shape : Shape) (zeros : Bool) (before digits : Octets) : Octets :=
  if zeros && shape.zero && !shape.left then before ++ padLeft (shape.width - before.length) digits '0'
  else shape.fitted (before ++ digits)

/-- The sign of a number. -/
def sign (shape : Shape) (negative : Bool) : Octets :=
  if negative then ['-'] else if shape.plus then ['+'] else if shape.blank then [' '] else []

/-- A text, cut to the precision. -/
def text (shape : Shape) (text : Octets) : Octets :=
  shape.fitted (match shape.precision with
    | some most => text.take most
    | none => text)

/-- The digits of a number, at least as many as the precision. -/
def digits (shape : Shape) (base n : Nat) : Octets :=
  match shape.precision with
  | some least => if least = 0 && n = 0 then [] else padLeft least (digitsOf base n) '0'
  | none => digitsOf base n

/-- A signed number. -/
def signed (shape : Shape) (n : Int) : Octets :=
  shape.fittedNumber shape.precision.isNone (shape.sign (n < 0)) (shape.digits 10 n.natAbs)

/-- A number without sign, in the base of its directive. -/
def unsigned (shape : Shape) (letter : Char) (n : Nat) : Octets :=
  let digits := match letter with
    | 'o' =>
      let digits := shape.digits 8 n
      if shape.alternate && digits.head? != some '0' then '0' :: digits else digits
    | 'x' => shape.digits 16 n
    | 'X' => (shape.digits 16 n).map Char.toUpper
    | _ => shape.digits 10 n
  let before := if shape.alternate && n != 0 && (letter = 'x' || letter = 'X') then ['0', letter] else []
  shape.fittedNumber shape.precision.isNone before digits

/-- A number with a fraction. -/
def fraction (shape : Shape) (letter : Char) (negative : Bool) (a : Quotient) : Octets :=
  let places := shape.precision.getD 6
  let small := letter.toLower
  let power := if letter = small then 'e' else 'E'
  let digits :=
    if small = 'e' then a.scientific power places shape.alternate
    else if small = 'g' then a.general power places shape.alternate
    else a.fixed places shape.alternate
  shape.fittedNumber true (shape.sign negative) digits

/-- What is no number. -/
def special (shape : Shape) (letter : Char) (negative : Bool) (name : String) : Octets :=
  let name := if letter = letter.toLower then name.toList else name.toList.map Char.toUpper
  shape.fitted (shape.sign negative ++ name)

end Shape

/-- What is wrong with an argument that should be a number. -/
inductive NumberFault where
  | notNumeric
  | notAll
  | outOfRange
  deriving DecidableEq, Repr, Inhabited

/-- What is said about it. -/
def NumberFault.message (dialect : Dialect) (fault : NumberFault) (argument : Octets) : Octets :=
  let shown := match dialect with
    | .standalone => quotedWord argument
    | .inShell => argument
  shown ++ octets (match fault, dialect with
    | .notNumeric, .standalone => ": expected a numeric value"
    | .notNumeric, .inShell => ": expected numeric value"
    | .notAll, .standalone => ": value not completely converted"
    | .notAll, .inShell => ": not completely converted"
    | .outOfRange, _ => ": Numerical result out of range")

/-- The number at the start of a text and the rest, with a sign and the base that its first digits give. -/
def readInteger (text : Octets) : Option (Int × Octets) :=
  let text := text.dropWhile isSpace
  let (negative, unsigned) := match text with
    | '-' :: rest => (true, rest)
    | '+' :: rest => (false, rest)
    | _ => (false, text)
  let (base, digits) := match unsigned with
    | '0' :: 'x' :: c :: rest => if isDigitOf 16 c then (16, c :: rest) else (8, unsigned)
    | '0' :: 'X' :: c :: rest => if isDigitOf 16 c then (16, c :: rest) else (8, unsigned)
    | '0' :: _ => (8, unsigned)
    | _ => (10, unsigned)
  let used := digits.takeWhile (isDigitOf base)
  if used.isEmpty then none
  else
    let value : Int := numberOf base used
    some (if negative then -value else value, digits.drop used.length)

/-- A number in a range, or the end of the range next to it. -/
def clamp (least most n : Int) : Int × Option NumberFault :=
  if n < least then (least, some .outOfRange) else if most < n then (most, some .outOfRange) else (n, none)

/-- The greatest number of a machine word with sign. -/
def greatestSigned : Int := 9223372036854775807

/-- The greatest number of a machine word without sign. -/
def greatestUnsigned : Int := 18446744073709551615

/-- The number of the first character of a text; in a shell every octet is a character. -/
def firstNumber (dialect : Dialect) (text : Octets) : Nat :=
  match dialect with
  | .inShell => (text.headD ' ').toNat
  | .standalone => ((toText text).toList.headD ' ').toNat

/-- The whole number that an argument stands for, and what is wrong with it. A quote stands before a character. -/
def wholeNumber (dialect : Dialect) (signed : Bool) (argument : Octets) : Int × Option NumberFault :=
  match argument with
  | [] => (0, none)
  | quote :: rest =>
    if (quote = '\'' || quote = '"') && !rest.isEmpty then ((firstNumber dialect rest : Int), none)
    else
      match readInteger argument with
      | none => (0, some .notNumeric)
      | some (n, rest) =>
        let (value, range) :=
          if signed then clamp (-greatestSigned - 1) greatestSigned n else clamp (-greatestUnsigned) greatestUnsigned n
        (value, range <|> if rest.isEmpty then none else some .notAll)

/-- A number with a fraction as it is read. -/
inductive Fraction where
  | finite (negative : Bool) (size : Quotient)
  | special (negative : Bool) (name : String)
  deriving DecidableEq, Repr, Inhabited

/-- The number with a fraction at the start of a text, and the rest. -/
def readFraction (text : Octets) : Option (Fraction × Octets) :=
  let text := text.dropWhile isSpace
  let (negative, unsigned) := match text with
    | '-' :: rest => (true, rest)
    | '+' :: rest => (false, rest)
    | _ => (false, text)
  let lower := unsigned.map Char.toLower
  if "infinity".toList.isPrefixOf lower then some (.special negative "inf", unsigned.drop 8)
  else if "inf".toList.isPrefixOf lower then some (.special negative "inf", unsigned.drop 3)
  else if "nan".toList.isPrefixOf lower then some (.special negative "nan", unsigned.drop 3)
  else
    match unsigned with
    | '0' :: x :: c :: _ =>
      if (x = 'x' || x = 'X') && isDigitOf 16 c then
        let digits := (unsigned.drop 2).takeWhile (isDigitOf 16)
        some (.finite negative ⟨numberOf 16 digits, 1⟩, unsigned.drop (2 + digits.length))
      else decimal negative unsigned
    | _ => decimal negative unsigned
where
  /-- The number in decimal digits at the start of a text. -/
  decimal (negative : Bool) (text : Octets) : Option (Fraction × Octets) :=
    let whole := text.takeWhile (isDigitOf 10)
    let rest := text.drop whole.length
    let places := match rest with
      | '.' :: rest => rest.takeWhile (isDigitOf 10)
      | _ => []
    let rest := match rest with
      | '.' :: rest => rest.drop places.length
      | _ => rest
    if whole.isEmpty && places.isEmpty then none
    else
      let value : Quotient := ⟨numberOf 10 (whole ++ places), Nat.pow 10 places.length⟩
      let (power, rest) := exponentOf rest
      some (.finite negative (value.scaled 10 power), rest)
  /-- The power of ten at the start of a text, zero if there is none. -/
  exponentOf (text : Octets) : Int × Octets :=
    match text with
    | letter :: rest =>
      if letter = 'e' || letter = 'E' then
        let (negative, digits) := match rest with
          | '-' :: rest => (true, rest)
          | '+' :: rest => (false, rest)
          | _ => (false, rest)
        let used := digits.takeWhile (isDigitOf 10)
        if used.isEmpty then (0, text)
        else
          let power : Int := (min (numberOf 10 used) 5000 : Nat)
          (if negative then -power else power, digits.drop used.length)
      else (0, text)
    | [] => (0, [])

/-- The number with a fraction that an argument stands for, and what is wrong with it. -/
def fractionOf (dialect : Dialect) (argument : Octets) : Fraction × Option NumberFault :=
  match argument with
  | [] => (.finite false ⟨0, 1⟩, none)
  | quote :: rest =>
    if (quote = '\'' || quote = '"') && !rest.isEmpty then (.finite false ⟨firstNumber dialect rest, 1⟩, none)
    else
      match readFraction argument with
      | none => (.finite false ⟨0, 1⟩, some .notNumeric)
      | some (value, rest) => (value, if rest.isEmpty then none else some .notAll)

/-- How far printing has come: what was written, the arguments that are left and whether all output is finished. -/
structure Progress where
  writes : List (Stream × Octets) := []
  arguments : List Octets
  status : Nat := 0
  finished : Bool := false
  deriving Inhabited

namespace Progress

/-- The progress with more output. -/
def put (progress : Progress) (text : Octets) : Progress :=
  { progress with writes := (.stdout, text) :: progress.writes }

/-- The progress with a complaint. -/
def complain (progress : Progress) (status : Nat) (text : Octets) : Progress :=
  { progress with writes := (.stderr, text) :: progress.writes, status }

/-- The next argument, empty if there is none. -/
def argument (progress : Progress) : Octets :=
  progress.arguments.headD []

/-- The progress after the next argument was taken. -/
def taken (progress : Progress) : Progress :=
  { progress with arguments := progress.arguments.tail }

end Progress

/-- A command that prints formats: its dialect and how it starts a complaint. -/
structure Printer where
  dialect : Dialect
  complaint : Octets → Octets

namespace Printer

/-- The escapes of a format. -/
def formatEscape (printer : Printer) : Octets → Escape :=
  match printer.dialect with
  | .standalone => readEscape true true true false
  | .inShell => readEscape false false false false

/-- The escapes of an argument that has them. -/
def argumentEscape (printer : Printer) : Octets → Escape :=
  match printer.dialect with
  | .standalone => readEscape true true true true
  | .inShell => readEscape false false true true

/-- The significant binary places of a stored fraction. -/
def places (printer : Printer) : Nat :=
  match printer.dialect with
  | .standalone => 64
  | .inShell => 53

/-- The progress with a complaint about an argument, if there is one. -/
def noted (printer : Printer) (progress : Progress) (fault : Option NumberFault) (argument : Octets) : Progress :=
  match fault with
  | none => progress
  | some fault => progress.complain 1 (printer.complaint (fault.message printer.dialect argument))

/-- A directive filled with the next argument; `none` if there is no such directive. -/
def fill (printer : Printer) (shape : Shape) (letter : Char) (progress : Progress) : Option Progress :=
  let argument := progress.argument
  let taken := progress.taken
  if letter = 'd' || letter = 'i' then
    let (n, fault) := wholeNumber printer.dialect true argument
    some ((printer.noted taken fault argument).put (shape.signed n))
  else if letter = 'u' || letter = 'o' || letter = 'x' || letter = 'X' then
    let (n, fault) := wholeNumber printer.dialect false argument
    some ((printer.noted taken fault argument).put (shape.unsigned letter (n % (greatestUnsigned + 1)).toNat))
  else if letter = 's' then some (taken.put (shape.text argument))
  else if letter = 'c' then some (taken.put (shape.fitted [argument.headD '\x00']))
  else if letter = 'b' then
    let (text, finished) := replaceEscapes printer.argumentEscape argument.length argument
    some { taken.put (shape.text text) with finished }
  else if letter = 'q' && printer.dialect = .standalone then some (taken.put (shape.fitted (shownName argument)))
  else if "eEfFgG".toList.contains letter then
    let (value, fault) := fractionOf printer.dialect argument
    let text := match value with
      | .finite negative size => shape.fraction letter negative (size.stored printer.places)
      | .special negative name => shape.special letter negative name
    some ((printer.noted taken fault argument).put text)
  else none

/-- The complaint about a directive that does not exist; nothing is printed after it. -/
def badDirective (printer : Printer) (directive : Octets) (progress : Progress) : Progress :=
  let (status, text) := match printer.dialect with
    | .standalone => (1, directive ++ octets ": invalid conversion specification")
    | .inShell =>
      if directive.all (fun c => !c.isAlpha && c != '%') || directive.length = 1 then
        (2, octets "missing format character")
      else (2, directive ++ octets ": invalid directive")
  { progress.complain status (printer.complaint text) with finished := true }

/-- A number in a format, or the next argument for an asterisk. -/
def readCount (text : Octets) (progress : Progress) : Int × Octets × Progress :=
  match text with
  | '*' :: rest => ((wholeNumber .inShell true progress.argument).1, rest, progress.taken)
  | _ =>
    let digits := text.takeWhile (isDigitOf 10)
    ((numberOf 10 digits : Int), text.drop digits.length, progress)

/-- The flags at the start of a text and the rest. -/
def readFlags (shape : Shape) : Octets → Shape × Octets
  | [] => (shape, [])
  | c :: rest =>
    match shape.withFlag c with
    | some shape => readFlags shape rest
    | none => (shape, c :: rest)

/-- The directive after a percent sign, filled in, and the rest of the format. -/
def directive (printer : Printer) (text : Octets) (progress : Progress) : Octets × Progress :=
  let (shape, rest) := readFlags {} text
  let (width, rest, progress) := readCount rest progress
  let shape := { shape with width := width.natAbs, left := shape.left || width < 0 }
  let (shape, rest, progress) := match rest with
    | '.' :: rest =>
      let (precision, rest, progress) := readCount rest progress
      ({ shape with precision := if precision < 0 then none else some precision.toNat }, rest, progress)
    | _ => (shape, rest, progress)
  let rest := match printer.dialect with
    | .standalone => rest.dropWhile fun c => "hlLjzt".toList.contains c
    | .inShell => rest
  match rest with
  | [] => ([], printer.badDirective ('%' :: text) progress)
  | letter :: after =>
    match printer.fill shape letter progress with
    | some progress => (after, progress)
    | none => (after, printer.badDirective ('%' :: text.take (text.length - after.length)) progress)

/-- A format printed once; at most `fuel` characters are read. -/
def once (printer : Printer) : (fuel : Nat) → Octets → Progress → Progress
  | 0, _, progress => progress
  | _, [], progress => progress
  | fuel + 1, '%' :: '%' :: rest, progress => once printer fuel rest (progress.put ['%'])
  | fuel + 1, '%' :: rest, progress =>
    let (rest, progress) := printer.directive rest progress
    if progress.finished then progress else once printer fuel rest progress
  | fuel + 1, '\\' :: rest, progress =>
    match printer.formatEscape rest with
    | .octet c rest => once printer fuel rest (progress.put [c])
    | .finish => { progress with finished := true }
    | .missingHex =>
      { progress.complain 1 (printer.complaint (octets "missing hexadecimal number in escape")) with finished := true }
    | .unknown => once printer fuel rest (progress.put ['\\'])
  | fuel + 1, c :: rest, progress => once printer fuel rest (progress.put [c])

/-- A format printed again while it takes arguments and some are left, at most `fuel` times more. -/
def again (printer : Printer) (format : Octets) : (fuel : Nat) → Progress → Progress
  | 0, progress => progress
  | fuel + 1, progress =>
    let next := printer.once format.length format progress
    if next.finished || next.arguments.isEmpty then next
    else if next.arguments.length = progress.arguments.length then
      match printer.dialect with
      | .inShell => next
      | .standalone =>
        next.complain next.status (printer.complaint
          (octets "warning: ignoring excess arguments, starting with " ++ quotedWord next.argument))
    else again printer format fuel next

/-- What is written for a format and its arguments, and the status. -/
def print (printer : Printer) (format : Octets) (arguments : List Octets) : List (Stream × Octets) × Nat :=
  let progress := printer.again format (arguments.length + 1) { arguments }
  (progress.writes.reverse, progress.status)

end Printer

end Utterance.Host.Printf
