import Utterance.Diagnostic.Basic
import Utterance.Pattern.Error
import Utterance.Phonetic.Transliterator

/-!
# Errors shown to the user

What can be wrong with a user's input (`JuliusGramError`), each with its code, message and place. `display` is the error
on its own: a pattern error as a diagnostic with the pattern below it, any other as its message and place. The pattern
is shown in the line that it is said to be in, after as many newlines as lead there, and the text of them and the list
of its lines have to fit into memory. Faults that no input should cause are `InternalError`.
-/

namespace Utterance
set_option autoImplicit false

/-- Something wrong with what the user gave. -/
inductive UserError where
  | general (message : String) (location : Option Location)
  | pattern (error : PatternError)
  | symbolName (name : String)
  | unpronounceable (error : Unpronounceable)
  deriving DecidableEq, Repr, Inhabited

namespace UserError

/-- The error code. -/
def code : UserError → String
  | .general _ _ => "E0000"
  | .pattern error => error.code
  | .symbolName _ => "E0101"
  | .unpronounceable _ => "E0201"

/-- What is wrong. -/
def message : UserError → String
  | .general message _ => message
  | .pattern error => error.message
  | .symbolName name => "invalid symbol name " ++ Text.quoted name ++ ": expected [A-Za-z0-9_-]+"
  | .unpronounceable error => error.message

/-- Where it is wrong, if the error knows. -/
def location : UserError → Option Location
  | .general _ location => location
  | .pattern error => error.location
  | .symbolName _ => none
  | .unpronounceable _ => none

/-- Advice. -/
def help : UserError → Option String
  | .pattern error => error.help
  | _ => none

/-- A note under the place. -/
def label : UserError → Option String
  | .pattern error => error.label
  | _ => none

/-- The error as a diagnostic, at a fallback place if it knows none itself (`ErrorReporter.report`). -/
def diagnostic (error : UserError) (fallback : Option Location := none) : Diagnostic where
  message := error.message
  location := error.location <|> fallback
  code := some error.code
  help := error.help
  label := error.label

end UserError

/-- The pattern as the text of the line that the error is in. -/
def PatternError.sources (error : PatternError) : List SourceText :=
  match error.location with
  | none => []
  | some place => [⟨place.file, error.pattern, place.line⟩]

/-- Why there is no text with the pattern in its line, or no list of the lines of that text. -/
def PatternError.lineFault? [Limits] (error : PatternError) : Option CapacityFault :=
  error.location.bind fun place =>
    capacityFault? Limits.characters (place.line - 1) <|> roomFault? Limits.cells place.line

/-- The error on its own. -/
def UserError.display [Limits] (error : UserError) : Except CapacityFault String :=
  match error with
  | .pattern details =>
    match details.lineFault? with
    | some fault => .error fault
    | none => error.diagnostic.print details.sources false
  | _ =>
    match error.location with
    | some place => .ok ("error[" ++ error.code ++ "]: " ++ error.message ++ "\n --> " ++ place.text)
    | none => .ok error.message

/-- A fault of the program itself (`InternalCompilerError`). -/
structure InternalError where
  message : String
  code : String := "E9999"
  deriving DecidableEq, Repr, Inhabited

/-- The error on its own. -/
def InternalError.display (error : InternalError) : String :=
  "[" ++ error.code ++ "] " ++ error.message

end Utterance
