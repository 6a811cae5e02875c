import Utterance.Capacity
import Utterance.Pattern.Error
import Utterance.Pattern.Mark

/-!
# Parsing a pattern

The marks of a text become building steps, in the order they are written, and the steps a node table (`Parser.parse`).
The form of the whole text is checked first. Then its parse tree is walked from left to right (`PatternInterpreter`):
the leftmost empty literal, empty range or oversized numeral is refused, and so is a group that is deeper than the walk
can go.
-/

namespace Utterance.Pattern
set_option autoImplicit false

/-- The value of a run of digits. -/
def digitsValue (digits : List Char) : Nat :=
  digits.foldl (fun value c => 10 * value + (c.toNat - '0'.toNat)) 0

/-- The value of a numeral within the limit. -/
def Numeral.value (numeral : Numeral) : Except ParseError Nat :=
  if numeral.digits.length ≤ digitLimit then .ok (digitsValue numeral.digits)
  else .error (.oversizedNumeral numeral.digits.length)

/-- A literal's text, where a backslash stands for the character after it. -/
def unescape : List Char → List Char
  | [] => []
  | '\\' :: c :: rest => c :: unescape rest
  | c :: rest => c :: unescape rest

/-- The text of a literal between its quotes. -/
def literalText (spelling : List Char) : List Char :=
  unescape spelling.tail.dropLast

/-- A pattern and where it stands. -/
structure Source where
  pattern : String
  file : String
  line : Int
  deriving DecidableEq, Repr, Inhabited

namespace Source

/-- A place in the source without an extent. -/
def point (source : Source) (column : Nat) : Location :=
  ⟨source.file, source.line, column, 0⟩

/-- The place of `length` characters. -/
def span (source : Source) (column length : Nat) : Location :=
  ⟨source.file, source.line, column, column + length⟩

/-- Refuses the pattern at a place. -/
def reject {α : Type} (source : Source) (fault : Fault) (place : Location) : Except ParseError α :=
  .error (.rejected (fault.error source.pattern place))

/-- The place and the fault of a refusal. -/
def refusal (source : Source) : Refusal → Fault × Location
  | .tooShort => (.unexpectedEnd, source.point (source.pattern.length + 1))
  | .lexeme ⟨.stray c, column⟩ => (.strayCharacter c, source.point column)
  | .lexeme ⟨token, column⟩ => (.unexpectedToken token.spelling, source.point column)

end Source

/-- The building step of a mark that is inside of `depth` groups, one method of `PatternInterpreter` for each kind. -/
def Mark.step [Limits] (source : Source) (depth : Nat) : Mark → Except ParseError BuildStep
  | .literal spelling column =>
    let text := literalText spelling
    if text.isEmpty then source.reject .emptyLiteral (source.span column spelling.length)
    else .ok (.literal (String.ofList text) (some (source.span column spelling.length)))
  | .symbol name column => .ok (.symbol (String.ofList name) (some (source.span column name.length)))
  | .openGroup column =>
    if depth < Limits.nesting then .ok (.enterGroup (some (source.point column))) else .error .tooDeep
  | .closeGroup => .ok .exitGroup
  | .bar => .ok .alternative
  | .zeroOrMore => .ok (.repeated .zeroOrMore)
  | .oneOrMore => .ok (.repeated .oneOrMore)
  | .optional => .ok (.repeated .optional)
  | .exactly count => count.value.map fun count => .repeated (.exactly count)
  | .range least most => do
    let low ← least.value
    let high ← most.value
    if high < low then source.reject (.emptyRange low high) (source.span least.column least.digits.length)
    else return .repeated (.range low high)

/-- How many groups the next mark is inside of. -/
def Mark.depthAfter (depth : Nat) : Mark → Nat
  | .openGroup _ => depth + 1
  | .closeGroup => depth - 1
  | _ => depth

/-- The building steps of marks inside of `depth` groups, up to the first that is refused. -/
def buildSteps [Limits] (source : Source) : (depth : Nat) → List Mark → Except ParseError (List BuildStep)
  | _, [] => .ok []
  | depth, mark :: rest => do
    let step ← mark.step source depth
    let steps ← buildSteps source (mark.depthAfter depth) rest
    return step :: steps

/-- The table that building steps make. -/
def build (steps : List BuildStep) : Except ParseError NodeTable :=
  match (Builder.empty.run steps).bind Builder.finish with
  | .ok table => .ok table
  | .error fault => .error (.build fault)

/-- The node table of a pattern (`Parser.parse`). -/
def parse [Limits] (source : Source) : Except ParseError NodeTable :=
  match marks source.pattern.toList with
  | .error refusal =>
    let (fault, place) := source.refusal refusal
    source.reject fault place
  | .ok marks => (buildSteps source 0 marks).bind build

end Utterance.Pattern
