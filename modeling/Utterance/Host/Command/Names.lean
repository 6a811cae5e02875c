import Utterance.Host.Command.Printf
import Utterance.Decimal
import Utterance.Host.Switches

/-!
# Commands on words

The last name of a path and what precedes it, sequences of numbers, and waiting.
-/

namespace Utterance.Host.Command
set_option autoImplicit false

/-! ## Names of paths -/

/-- A text without the slashes at its end. -/
def withoutSlashes (text : Octets) : Octets :=
  (text.reverse.dropWhile (· = '/')).reverse

/-- The last name of a path. -/
def baseName (path : Octets) : Octets :=
  let trimmed := withoutSlashes path
  if trimmed.isEmpty then path.take 1 else (trimmed.reverse.takeWhile (· != '/')).reverse

/-- A name without an ending, unless nothing would be left. -/
def withoutEnding (ending name : Octets) : Octets :=
  if ending.isSuffixOf name && ending.length < name.length then name.take (name.length - ending.length) else name

/-- The path that leads to the last name of a path. -/
def directoryName (path : Octets) : Octets :=
  let trimmed := withoutSlashes path
  if trimmed.isEmpty then (if path.isEmpty then ['.'] else ['/'])
  else
    let before := trimmed.take (trimmed.length - (trimmed.reverse.takeWhile (· != '/')).length)
    if before.isEmpty then ['.']
    else if (withoutSlashes before).isEmpty then ['/']
    else withoutSlashes before

/-- The last names of paths. -/
def basename (call : Call) : Outcome :=
  let known : List Switch :=
    [⟨'a', ["multiple"], false⟩, ⟨'s', ["suffix"], true⟩, ⟨'z', ["zero"], false⟩]
  match readSwitches known false call.arguments with
  | .error text => call.misused 1 text
  | .ok given =>
    let stop := if given.has 'z' then ['\x00'] else ['\n']
    let many := given.has 'a' || given.has 's'
    match given.operands with
    | [] => call.misused 1 (octets "missing operand")
    | name :: rest =>
      if many then
        let ending := (given.value? 's').getD []
        call.done 0 (given.operands.flatMap fun name => withoutEnding ending (baseName name) ++ stop)
      else
        match rest with
        | [] => call.done 0 (baseName name ++ stop)
        | [ending] => call.done 0 (withoutEnding ending (baseName name) ++ stop)
        | _ :: extra :: _ => call.misused 1 (octets "extra operand " ++ quotedWord extra)

/-- The paths that lead to the last names of paths. -/
def dirname : Call → Outcome := withSwitches [⟨'z', ["zero"], false⟩] 1 fun call given =>
  let stop := if given.has 'z' then ['\x00'] else ['\n']
  if given.operands.isEmpty then call.misused 1 (octets "missing operand")
  else call.done 0 (given.operands.flatMap fun name => directoryName name ++ stop)

/-! ## Sequences of numbers -/

/-- A number with a fixed number of places. -/
structure Placed where
  digits : Int
  places : Nat
  deriving DecidableEq, Inhabited

/-- The number that a word stands for, with the places it is written with. -/
def placed? (word : Octets) : Option Placed :=
  match Printf.readFraction word with
  | some (.finite negative size, []) =>
    let unsigned := word.dropWhile fun c => isSpace c || c = '-' || c = '+'
    let plain := unsigned.takeWhile fun c => c != 'e' && c != 'E'
    let hex := "0x".toList.isPrefixOf unsigned || "0X".toList.isPrefixOf unsigned
    let written := if hex then 0 else ((plain.dropWhile (· != '.')).drop 1).length
    let power : Int := if hex then 0 else match Printf.readFraction.exponentOf (unsigned.drop plain.length) with
      | (power, _) => power
    let places := ((written : Int) - power).toNat
    let scaled := (size.scaled 10 places).rounded
    some ⟨if negative then -(scaled : Int) else scaled, places⟩
  | _ => none

/-- The digits of a number with a greater number of places. -/
def Placed.atPlaces (n : Placed) (places : Nat) : Int :=
  n.digits * Nat.pow 10 (places - n.places)

/-- A number as it is written. -/
def placedText (places : Nat) (n : Int) : Octets :=
  (if n < 0 then ['-'] else []) ++ Quotient.pointed places false n.natAbs

/-- The numbers from a first one on, `count` of them. -/
def progression (first step : Int) (count : Nat) : List Int :=
  (List.range count).map fun (i : Nat) => first + step * (i : Int)

/-- The switches of `seq`. -/
def seqSwitches : List Switch :=
  [⟨'s', ["separator"], true⟩, ⟨'w', ["equal-width"], false⟩, ⟨'f', ["format"], true⟩]

/-- Arguments up to the first that is no switch; a negative number is none. -/
def seqOperands : List Octets → List Octets
  | ['-', '-'] :: rest => ['-', '-'] :: rest
  | ('-' :: c :: rest) :: more => if isDigitOf 10 c || c = '.' then ['-', '-'] :: ('-' :: c :: rest) :: more
    else ('-' :: c :: rest) :: valued c rest more
  | arguments => arguments
where
  /-- The arguments after a switch, its value left as it is. -/
  valued (c : Char) (rest : Octets) : List Octets → List Octets
    | value :: more =>
      if (c = 's' || c = 'f') && rest.isEmpty then value :: seqOperands more else seqOperands (value :: more)
    | [] => []

/-- A number filled into a format. -/
def formatted (format : Octets) (places : Nat) (n : Int) : Octets :=
  let printer : Printf.Printer := ⟨.standalone, id⟩
  (printer.print format [placedText places n]).1.flatMap Prod.snd

/-- Numbers from a first to a last one. -/
def seq (call : Call) : Outcome :=
  match readSwitches seqSwitches false (seqOperands call.arguments) with
  | .error text => call.misused 1 text
  | .ok given =>
    match given.operands with
    | [] => call.misused 1 (octets "missing operand")
    | _ :: _ :: _ :: extra :: _ => call.misused 1 (octets "extra operand " ++ quotedWord extra)
    | operands =>
      match operands.find? fun word => (placed? word).isNone with
      | some word => call.misused 1 (octets "invalid floating point argument: " ++ quotedWord word)
      | none =>
        let numbers := operands.filterMap placed?
        let one : Placed := ⟨1, 0⟩
        let (first, step, last) := match numbers with
          | [last] => (one, one, last)
          | [first, last] => (first, one, last)
          | first :: step :: last :: _ => (first, step, last)
          | [] => (one, one, one)
        if step.digits = 0 then
          call.misused 1 (octets "invalid Zero increment value: " ++ quotedWord (operands.getD 1 []))
        else
          let shown := max first.places step.places
          let places := max shown last.places
          let (start, stride, stop) := (first.atPlaces places, step.atPlaces places, last.atPlaces places)
          let span := if 0 < stride then stop - start else start - stop
          let count := if span < 0 then 0 else (span / stride.natAbs).toNat + 1
          let unit : Int := (Nat.pow 10 (places - shown) : Nat)
          let values := (progression start stride count).map fun (n : Int) => n / unit
          let texts := match given.value? 'f' with
            | some format => values.map (formatted format shown)
            | none => values.map (placedText shown)
          let width := (texts.map List.length).foldl max
            (if given.has 'w' then (placedText shown (stop / unit)).length else 0)
          let filled (text : Octets) : Octets := match text with
            | '-' :: digits => '-' :: padLeft (width - 1) digits '0'
            | digits => padLeft width digits '0'
          let texts := if given.has 'w' then texts.map filled else texts
          match given.value? 'f' with
          | some format =>
            if format.contains '%' then finish given texts
            else call.fail 1 (octets "format " ++ quotedWord format ++ octets " has no % directive")
          | none => finish given texts
where
  /-- The texts with what separates them. -/
  finish (given : Given) (texts : List Octets) : Outcome :=
    if texts.isEmpty then call.done 0 []
    else call.done 0 (joinWith ((given.value? 's').getD ['\n']) texts ++ ['\n'])

/-! ## Waiting and repeating -/

/-- The seconds of a letter after a number. -/
def secondsOf : Octets → Option Nat
  | [] => some 1
  | ['s'] => some 1
  | ['m'] => some 60
  | ['h'] => some 3600
  | ['d'] => some 86400
  | _ => none

/-- A time as it is written, in millionths of a second. -/
def interval? (word : Octets) : Option Nat :=
  match Printf.readFraction word with
  | some (.finite false size, rest) =>
    (secondsOf rest).map fun factor => (Quotient.scaled 10 6 ⟨size.numerator * factor, size.denominator⟩).rounded
  | some (.special false "inf", _) => some 1000000000000
  | _ => none

/-- Waits as long as the times together. -/
def sleep : Call → Outcome := withSwitches [] 1 fun call given =>
  if given.operands.isEmpty then call.misused 1 (octets "missing operand")
  else
    match given.operands.filter fun word => (interval? word).isNone with
    | [] => { call.done 0 [] with time := (given.operands.filterMap interval?).foldl (· + ·) 0 }
    | wrong =>
      call.done 1 [] (wrong.flatMap (fun word =>
        call.complaint (octets "invalid time interval " ++ quotedWord word)) ++ call.helpLine)

/-- A line over and over, as often as anything that reads it may ask for. -/
def yes : Call → Outcome := withSwitches [] 1 fun call given =>
  let line := if given.operands.isEmpty then ['y'] else joinWith [' '] given.operands
  { call.done 0 (unlines (List.replicate 20000 line)) with endless := true }

end Utterance.Host.Command
