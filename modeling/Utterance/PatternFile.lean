import Utterance.Diagnostic.Report
import Utterance.Session
import Utterance.Text.Blank

/-!
# Pattern files

A text with one pattern a line (`CompilerDriver.compile_patterns`). Blank lines and comments are skipped. A line that
the user got wrong is reported and the others are still added; any other failure ends the file, with the lines before it
added.
-/

namespace Utterance
set_option autoImplicit false

/-- Whether a line holds a pattern: it is neither blank nor a comment. -/
def isPatternLine (line : List Char) : Bool :=
  match Text.strip line with
  | [] => false
  | c :: _ => c != '#'

/-- The lines that hold patterns, with their numbers counted from `number`. -/
def numberedPatterns : (number : Nat) → List (List Char) → List (Nat × String)
  | _, [] => []
  | number, line :: rest =>
    if isPatternLine line then (number, String.ofList line) :: numberedPatterns (number + 1) rest
    else numberedPatterns (number + 1) rest

/-- The patterns of a text with the numbers of their lines (`iter_pattern_lines`). -/
def patternLines (text : String) : List (Nat × String) :=
  numberedPatterns 1 (Text.lines text.toList)

/-- How far compiling a file has come, and its result at the end (`CompilationResult`). -/
structure Compilation where
  session : Session
  report : Report
  compiled : Nat := 0
  /-- the failure that ended the file early -/
  aborted : Option Failure := none
  deriving DecidableEq, Repr, Inhabited

namespace Compilation

/-- Whether every pattern was added. -/
def success (compilation : Compilation) : Bool :=
  !compilation.report.hasErrors

/-- The report as a text, if there is one (`get_errors`). -/
def errorTexts [Limits] (compilation : Compilation) : Except CapacityFault (List String) :=
  if compilation.report.hasErrors then (compilation.report.print false).map fun text => [text] else .ok []

/-- One more pattern. -/
def addLine [Limits] (transliterate : Transliterator) (file : String) (compilation : Compilation) (number : Nat)
    (pattern : String) : Compilation :=
  match (Session.Step.add transliterate ⟨pattern, file, number⟩).run compilation.session with
  | .ok () session => { compilation with session, compiled := compilation.compiled + 1 }
  | .error (.user error) session =>
    { compilation with session, report := compilation.report.add (error.diagnostic (some ⟨file, number, 1, 0⟩)) }
  | .error failure session => { compilation with session, aborted := some failure }

/-- The patterns in order, up to the first failure that is not reported. -/
def addLines [Limits] (transliterate : Transliterator) (file : String) : Compilation → List (Nat × String) → Compilation
  | compilation, [] => compilation
  | compilation, (number, pattern) :: rest =>
    let next := compilation.addLine transliterate file number pattern
    if next.aborted.isSome then next else addLines transliterate file next rest

end Compilation

/-- Adds every pattern of a text to a session (`compile_patterns`). -/
def Session.compile [Limits] (transliterate : Transliterator) (session : Session) (text : String)
    (file : String := "<patterns>") : Compilation :=
  Compilation.addLines transliterate file { session, report := { sources := [⟨file, text, 1⟩] } } (patternLines text)

end Utterance
