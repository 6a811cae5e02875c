import Utterance.Diagnostic.Basic
import Utterance.Error

/-!
# Reports

The diagnostics collected over some sources (`ErrorReporter`), written one after the other with a closing count.
-/

namespace Utterance
set_option autoImplicit false

/-- Diagnostics and the sources they point into. -/
structure Report where
  sources : List SourceText
  diagnostics : List Diagnostic := []
  deriving DecidableEq, Repr, Inhabited

namespace Report

/-- One more diagnostic at the end. -/
def add (report : Report) (diagnostic : Diagnostic) : Report :=
  { report with diagnostics := report.diagnostics ++ [diagnostic] }

/-- Whether there is anything to tell. -/
def hasErrors (report : Report) : Bool :=
  !report.diagnostics.isEmpty

/-- The closing row: how many errors there were. -/
def summary (count : Nat) : Row :=
  let noun := if count = 1 then "error" else "errors"
  [⟨[.bold, .red], "error"⟩, ⟨[.bold], ": aborting due to " ++ toString count ++ " previous " ++ noun⟩]

/-- The whole report. -/
def render (report : Report) (colour : Bool) : String :=
  "\n\n".intercalate
    (report.diagnostics.map (fun diagnostic => diagnostic.render report.sources colour) ++
      [(summary report.diagnostics.length).render colour])

/-- The whole report, if every diagnostic can be laid out (`format_all_errors`). -/
def print [Limits] (report : Report) (colour : Bool) : Except CapacityFault String :=
  match report.diagnostics.findSome? fun diagnostic => diagnostic.layoutFault? report.sources with
  | some fault => .error fault
  | none => .ok (report.render colour)

/-- What is printed of a report: nothing without errors (`print_errors`). -/
def printed [Limits] (report : Report) (colour : Bool) : Except CapacityFault String :=
  if report.hasErrors then (report.print colour).map (· ++ "\n") else .ok ""

end Report

/-- The settings that decide whether terminals get colour. -/
structure ColourSettings where
  /-- any text here switches colour off -/
  noColour : Option String := none
  /-- a word for "off" switches colour off -/
  explicit : Option String := none
  deriving DecidableEq, Repr, Inhabited

/-- The words that switch colour off. -/
def offWords : List String := ["0", "false", "no", "never"]

/-- Whether colour is used (`_use_color`). -/
def ColourSettings.enabled (settings : ColourSettings) : Bool :=
  (present settings.noColour).isNone && !offWords.contains (settings.explicit.getD "").toLower

end Utterance
