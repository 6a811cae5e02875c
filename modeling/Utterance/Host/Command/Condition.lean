import Utterance.Host.Command.Printf
import Utterance.Host.Switches

/-!
# Conditions

A condition on texts, numbers and files is true or false, or it is no condition. The command of its own decides by the
number of words what they mean; the one inside a shell reads them from left to right.
-/

namespace Utterance.Host.Condition
set_option autoImplicit false

/-- The operators with one operand. -/
def unaryOperators : List String :=
  ["-b", "-c", "-d", "-e", "-f", "-g", "-h", "-k", "-L", "-n", "-O", "-G", "-p", "-r", "-s", "-S", "-t", "-u", "-w",
   "-x", "-z"]

/-- The operators with two operands. -/
def binaryOperators : List String :=
  ["=", "!=", "-eq", "-ne", "-lt", "-le", "-gt", "-ge", "-nt", "-ot", "-ef"]

/-- Whether a condition holds, or what is wrong with it. -/
abbrev Verdict := Except Octets Bool

/-- What a condition is decided on. -/
structure Scene where
  find : Octets → Target
  /-- whether one operator more is known: the order of texts, or a second sign for equality -/
  inShell : Bool

namespace Scene

/-- Whether an operator has one operand. -/
def isUnary (_ : Scene) (word : Octets) : Bool :=
  unaryOperators.contains (String.ofList word)

/-- Whether an operator has two operands. -/
def isBinary (scene : Scene) (word : Octets) : Bool :=
  let text := String.ofList word
  binaryOperators.contains text || if scene.inShell then text = "<" || text = ">" else text = "=="

/-- A whole number with blanks around it. -/
def number (scene : Scene) (word : Octets) : Except Octets Int :=
  let trimmed := ((word.dropWhile isSpace).reverse.dropWhile isSpace).reverse
  let (negative, digits) := match trimmed with
    | '-' :: rest => (true, rest)
    | '+' :: rest => (false, rest)
    | _ => (false, trimmed)
  let wrong := if scene.inShell then octets "Illegal number: " ++ word else octets "invalid integer " ++ quotedWord word
  match natural? digits with
  | some n =>
    if scene.inShell && Printf.greatestSigned < n then .error wrong
    else .ok (if negative then -(n : Int) else n)
  | none => .error wrong

/-- A condition with one operand. -/
def unary (scene : Scene) (operator operand : Octets) : Verdict :=
  let target := scene.find operand
  let isThere := match target with
    | .file _ _ => true
    | .directory _ => true
    | _ => false
  match String.ofList operator with
  | "-n" => .ok !operand.isEmpty
  | "-z" => .ok operand.isEmpty
  | "-e" => .ok isThere
  | "-r" => .ok isThere
  | "-w" => .ok isThere
  | "-O" => .ok isThere
  | "-G" => .ok isThere
  | "-f" => .ok (match target with
    | .file names _ => names != ["dev", "null"]
    | _ => false)
  | "-c" => .ok (match target with
    | .file names _ => names == ["dev", "null"]
    | _ => false)
  | "-d" => .ok (match target with
    | .directory _ => true
    | _ => false)
  | "-x" => .ok (match target with
    | .directory _ => true
    | _ => false)
  | "-s" => .ok (match target with
    | .file _ bytes => !bytes.isEmpty
    | .directory _ => true
    | _ => false)
  | "-t" => (scene.number operand).map fun _ => false
  | _ => .ok false

/-- A condition with two operands. -/
def binary (scene : Scene) (left operator right : Octets) : Verdict :=
  let numbers (test : Int → Int → Bool) : Verdict := do
    let a ← scene.number left
    let b ← scene.number right
    return test a b
  let same := match scene.find left, scene.find right with
    | .file a _, .file b _ => a == b
    | .directory a, .directory b => a == b
    | _, _ => false
  match String.ofList operator with
  | "=" => .ok (left == right)
  | "==" => .ok (left == right)
  | "!=" => .ok (left != right)
  | "<" => .ok (decide (left < right))
  | ">" => .ok (decide (right < left))
  | "-eq" => numbers fun a b => a == b
  | "-ne" => numbers fun a b => a != b
  | "-lt" => numbers fun a b => a < b
  | "-le" => numbers fun a b => a ≤ b
  | "-gt" => numbers fun a b => b < a
  | "-ge" => numbers fun a b => b ≤ a
  | "-ef" => .ok same
  | _ => .ok false

/-! ## Inside a shell -/

/-- The kinds of words in a condition. -/
inductive Kind where
  | nothing
  | operand
  | unary
  | binary
  | negation
  | both
  | either
  | opening
  | closing
  deriving DecidableEq, Inhabited

/-- What a word is by itself. -/
def operatorKind? (scene : Scene) (word : Octets) : Option Kind :=
  if scene.isUnary word then some .unary
  else if scene.isBinary word then some .binary
  else
    match String.ofList word with
    | "!" => some .negation
    | "-a" => some .both
    | "-o" => some .either
    | "(" => some .opening
    | ")" => some .closing
    | _ => none

/-- What the first of some words is. An operator with one operand that has none, or has a comparison after it, is an
operand. -/
def kind (scene : Scene) : List Octets → Kind
  | [] => .nothing
  | word :: rest =>
    let standsAlone := match rest with
      | [] => true
      | [_] => false
      | next :: _ => scene.isBinary next
    match scene.operatorKind? word with
    | some .unary => if standsAlone then .operand else .unary
    | some .opening => if rest.isEmpty then .operand else .opening
    | some kind => kind
    | none => .operand

mutual

/-- Conditions of which one is enough; the words that are left. -/
def eitherOf (scene : Scene) : (fuel : Nat) → List Octets → Except Octets (Bool × List Octets)
  | 0, _ => .error (octets "argument expected")
  | fuel + 1, words => do
    let (first, rest) ← scene.bothOf fuel words
    if scene.kind rest = .either then
      let (second, rest) ← scene.eitherOf fuel (rest.drop 1)
      return (first || second, rest)
    else return (first, rest)

/-- Conditions that all have to hold; the words that are left. -/
def bothOf (scene : Scene) : (fuel : Nat) → List Octets → Except Octets (Bool × List Octets)
  | 0, _ => .error (octets "argument expected")
  | fuel + 1, words => do
    let (first, rest) ← scene.negated fuel words
    if scene.kind rest = .both then
      let (second, rest) ← scene.bothOf fuel (rest.drop 1)
      return (first && second, rest)
    else return (first, rest)

/-- A condition with any number of negations before it; the words that are left. -/
def negated (scene : Scene) : (fuel : Nat) → List Octets → Except Octets (Bool × List Octets)
  | 0, _ => .error (octets "argument expected")
  | fuel + 1, words =>
    if scene.kind words = .negation then
      if words.length = 1 then .ok (true, [])
      else do
        let (holds, rest) ← scene.negated fuel (words.drop 1)
        return (!holds, rest)
    else scene.primary fuel words

/-- A single condition; the words that are left. -/
def primary (scene : Scene) : (fuel : Nat) → List Octets → Except Octets (Bool × List Octets)
  | 0, _ => .error (octets "argument expected")
  | fuel + 1, words =>
    match scene.kind words, words with
    | .nothing, _ => .ok (false, [])
    | _, [] => .ok (false, [])
    | .opening, _ :: rest =>
      if scene.kind rest = .closing then .ok (false, rest.drop 1)
      else do
        let (holds, rest) ← scene.eitherOf fuel rest
        if scene.kind rest = .closing then return (holds, rest.drop 1)
        else .error (octets "closing paren expected")
    | .unary, operator :: rest =>
      match rest with
      | [] => .error (operator ++ octets ": argument expected")
      | operand :: rest => (scene.unary operator operand).map fun holds => (holds, rest)
    | _, word :: rest =>
      if scene.kind rest = .binary then
        match rest with
        | operator :: right :: rest => (scene.binary word operator right).map fun holds => (holds, rest)
        | operator :: _ => .error (operator ++ octets ": argument expected")
        | [] => .ok (!word.isEmpty, rest)
      else .ok (!word.isEmpty, rest)

end

/-- A condition as a shell reads it. -/
def shellVerdict (scene : Scene) (words : List Octets) : Verdict :=
  let fuel := 4 * words.length + 8
  let general (words : List Octets) : Verdict :=
    match scene.eitherOf fuel words with
    | .error text => .error text
    | .ok (holds, []) => .ok holds
    | .ok (_, rest) =>
      let before := words.getD (words.length - rest.length - 1) []
      .error (before ++ octets ": unexpected operator")
  match words with
  | [] => .ok false
  | [left, operator, right] =>
    if scene.isBinary operator then scene.binary left operator right
    else if left = ['('] && right = [')'] then .ok !operator.isEmpty
    else if left = ['!'] then (general [operator, right]).map not
    else general words
  | [first, second, third, fourth] =>
    if first = ['!'] then (general [second, third, fourth]).map not
    else if first = ['('] && fourth = [')'] then general [second, third]
    else general words
  | words => general words

/-! ## As a command of its own -/

/-- The complaint that something is missing after the last word. -/
def missingAfter (words : List Octets) : Octets :=
  octets "missing argument after " ++ quotedWord (words.getLastD [])

mutual

/-- Conditions joined by operators; the words that are left. -/
def joined (scene : Scene) : (fuel : Nat) → (all : List Octets) → List Octets → Except Octets (Bool × List Octets)
  | 0, all, _ => .error (missingAfter all)
  | fuel + 1, all, words => do
    let (first, rest) ← scene.joinedAll fuel all words
    match rest with
    | ['-', 'o'] :: rest =>
      let (second, rest) ← scene.joined fuel all rest
      return (first || second, rest)
    | _ => return (first, rest)

/-- Conditions that all have to hold; the words that are left. -/
def joinedAll (scene : Scene) : (fuel : Nat) → (all : List Octets) → List Octets → Except Octets (Bool × List Octets)
  | 0, all, _ => .error (missingAfter all)
  | fuel + 1, all, words => do
    let (first, rest) ← scene.term fuel all words
    match rest with
    | ['-', 'a'] :: rest =>
      let (second, rest) ← scene.joinedAll fuel all rest
      return (first && second, rest)
    | _ => return (first, rest)

/-- A single condition; the words that are left. -/
def term (scene : Scene) : (fuel : Nat) → (all : List Octets) → List Octets → Except Octets (Bool × List Octets)
  | 0, all, _ => .error (missingAfter all)
  | fuel + 1, all, words =>
    match words with
    | [] => .error (missingAfter all)
    | ['!'] :: rest => do
      if rest.isEmpty then throw (missingAfter all)
      let (holds, rest) ← scene.term fuel all rest
      return (!holds, rest)
    | ['('] :: rest => do
      if rest.isEmpty then throw (missingAfter all)
      let (holds, rest) ← scene.joined fuel all rest
      match rest with
      | [')'] :: rest => return (holds, rest)
      | [] => throw (octets "')' expected")
      | found :: _ => throw (octets "')' expected, found " ++ found)
    | word :: operator :: right :: rest =>
      if scene.isBinary operator then (scene.binary word operator right).map fun holds => (holds, rest)
      else if scene.isUnary word then (scene.unary word operator).map fun holds => (holds, right :: rest)
      else .ok (!word.isEmpty, operator :: right :: rest)
    | [word, operand] =>
      if scene.isUnary word then (scene.unary word operand).map fun holds => (holds, [])
      else .ok (!word.isEmpty, [operand])
    | [word] => .ok (!word.isEmpty, [])

end

/-- A condition of any number of words. -/
def anyWords (scene : Scene) (words : List Octets) : Verdict :=
  match scene.joined (4 * words.length + 8) words words with
  | .error text => .error text
  | .ok (holds, []) => .ok holds
  | .ok (_, extra :: _) => .error (octets "extra argument " ++ quotedWord extra)

/-- A condition of two words. -/
def twoWords (scene : Scene) (first second : Octets) : Verdict :=
  if first = ['!'] then .ok second.isEmpty
  else if first.length = 2 && first.head? = some '-' then
    if scene.isUnary first then scene.unary first second
    else .error (quotedWord first ++ octets ": unary operator expected")
  else .error (missingAfter [first, second])

/-- A condition of three words. -/
def threeWords (scene : Scene) (first second third : Octets) : Verdict :=
  if scene.isBinary second then scene.binary first second third
  else if first = ['!'] then (scene.twoWords second third).map not
  else if first = ['('] && third = [')'] then .ok !second.isEmpty
  else if second = ['-', 'a'] || second = ['-', 'o'] then scene.anyWords [first, second, third]
  else .error (quotedWord second ++ octets ": binary operator expected")

/-- A condition as the command of its own reads it. -/
def commandVerdict (scene : Scene) (words : List Octets) : Verdict :=
  match words with
  | [] => .ok false
  | [word] => .ok !word.isEmpty
  | [first, second] => scene.twoWords first second
  | [first, second, third] => scene.threeWords first second third
  | [first, second, third, fourth] =>
    if first = ['!'] then (scene.threeWords second third fourth).map not
    else if first = ['('] && fourth = [')'] then scene.twoWords second third
    else scene.anyWords words
  | words => scene.anyWords words

end Scene

/-- The status of a verdict. -/
def statusOf (holds : Bool) : Nat :=
  if holds then 0 else 1

/-- A condition as a command of its own. Called by a bracket, it needs the closing one. -/
def test (call : Call) : Outcome :=
  let scene : Scene := ⟨call.find, false⟩
  let bracket := call.name.getLast? = some '['
  if bracket && call.arguments.getLast? != some [']'] then call.fail 2 (octets "missing " ++ quotedWord [']'])
  else
    match scene.commandVerdict (if bracket then call.arguments.dropLast else call.arguments) with
    | .error text => call.fail 2 text
    | .ok holds => call.done (statusOf holds) []

end Utterance.Host.Condition
