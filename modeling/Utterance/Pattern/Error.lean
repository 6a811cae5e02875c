import Utterance.Location
import Utterance.Node.Builder
import Utterance.Text.Quoted

/-!
# Why a text is no pattern

`Fault` lists the causes and gives each its wording; `PatternError` is what a caller is told, with the pattern and
the place. Numerals beyond the conversion limit, groups beyond the nesting that there is room for and a builder that is
used out of turn are not faults of the pattern's form and are kept apart in `ParseError`.
-/

namespace Utterance
set_option autoImplicit false

/-- A refused pattern: what is said about it, and where (`InvalidPatternSyntax`). -/
structure PatternError where
  message : String
  pattern : String
  location : Option Location
  code : String := "E0001"
  help : Option String := none
  label : Option String := none
  deriving DecidableEq, Repr, Inhabited

namespace Pattern

/-- Why a text is no pattern. -/
inductive Fault where
  /-- no token begins with the character -/
  | strayCharacter (c : Char)
  /-- a token stands where it cannot -/
  | unexpectedToken (spelling : List Char)
  /-- the text ends too early -/
  | unexpectedEnd
  /-- a literal has no text -/
  | emptyLiteral
  /-- a range ends below its start -/
  | emptyRange (least most : Nat)
  deriving DecidableEq, Repr, Inhabited

namespace Fault

/-- The reason in words (`_describe`). -/
def reason : Fault → String
  | .strayCharacter c => "unexpected character " ++ Text.quoted (String.singleton c)
  | .unexpectedToken spelling => "unexpected " ++ Text.quoted (String.ofList spelling)
  | .unexpectedEnd => "unexpected end of pattern"
  | .emptyLiteral => "empty string literal"
  | .emptyRange least most => "repeat range \x7b" ++ toString least ++ "," ++ toString most ++ "\x7d is empty"

/-- The error code. -/
def code : Fault → String
  | .emptyRange _ _ => "E0002"
  | _ => "E0001"

/-- Advice, where there is some. -/
def help : Fault → Option String
  | .emptyRange _ _ => some "write the smaller count first"
  | _ => none

/-- A note under the place, where there is one. -/
def label : Fault → Option String
  | .emptyLiteral => some "literal has no text"
  | _ => none

/-- What a caller is told of a fault. -/
def error (fault : Fault) (pattern : String) (location : Location) : PatternError where
  message := "invalid pattern syntax: " ++ fault.reason
  pattern := pattern
  location := some location
  code := fault.code
  help := fault.help
  label := fault.label

end Fault

/-- Why a text could not be parsed. -/
inductive ParseError where
  /-- the text is no pattern -/
  | rejected (error : PatternError)
  /-- a numeral has more digits than can be converted -/
  | oversizedNumeral (digits : Nat)
  /-- a group is inside of too many others -/
  | tooDeep
  /-- the builder was used out of turn -/
  | build (fault : BuildFault)
  deriving DecidableEq, Repr, Inhabited

end Pattern

end Utterance
