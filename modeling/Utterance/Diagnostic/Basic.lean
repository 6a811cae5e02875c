import Utterance.Capacity
import Utterance.Location
import Utterance.Text.Lines

/-!
# Diagnostics

A diagnostic says what is wrong, where, under which code, and what might help. It is laid out in rows of spans
(`_format_diagnostic`): a header, an arrow with the place, then the row of the source with carets under the place when
that row is known, and the advice at the end (`_append_annotations`). A span carries its tints, so that the same layout
is written with and without colour. `render` is the layout; `print` refuses a place that is further to the right than a
row can be long.
-/

namespace Utterance
set_option autoImplicit false

/-- One thing to tell the user (`Error`). -/
structure Diagnostic where
  message : String
  location : Option Location
  code : Option String := none
  help : Option String := none
  note : Option String := none
  label : Option String := none
  deriving DecidableEq, Repr, Inhabited

/-- A source text whose first row has number `firstLine`. -/
structure SourceText where
  file : String
  text : String
  firstLine : Int := 1
  deriving DecidableEq, Repr, Inhabited

/-- The row that a line number means; only positive numbers mean one. -/
def SourceText.row? (source : SourceText) (line : Int) : Option String :=
  if line < 1 || line < source.firstLine then none
  else ((Text.rows source.text.toList)[(line - source.firstLine).toNat]?).map String.ofList

/-- The row that a place is in, if its file is among the sources. -/
def Location.row? (place : Location) (sources : List SourceText) : Option String :=
  (sources.find? fun source => source.file == place.file).bind fun source => source.row? place.line

/-- How a span is emphasised on a terminal. -/
inductive Tint where
  | bold
  | red
  | blue
  | cyan
  deriving DecidableEq, Repr, Inhabited

/-- The escape sequence that switches a tint on. -/
def Tint.sequence : Tint → String
  | .bold => "\x1b[1m"
  | .red => "\x1b[31m"
  | .blue => "\x1b[34m"
  | .cyan => "\x1b[36m"

/-- The escape sequence that switches all tints off. -/
def tintReset : String := "\x1b[0m"

/-- A piece of a row. -/
structure Span where
  tints : List Tint
  text : String
  deriving DecidableEq, Repr, Inhabited

/-- The span as text, its tints only in colour (`_style`). -/
def Span.render (colour : Bool) (span : Span) : String :=
  if colour && !span.tints.isEmpty then String.join (span.tints.map Tint.sequence) ++ span.text ++ tintReset
  else span.text

/-- The spans of one row. -/
abbrev Row := List Span

/-- The row as text. -/
def Row.render (colour : Bool) (row : Row) : String :=
  String.join (row.map (Span.render colour))

/-- A text of `count` equal characters. -/
def fill (count : Nat) (c : Char) : String :=
  String.ofList (List.replicate count c)

/-- A text that is there and not empty. -/
def present : Option String → Option String
  | some text => if text.isEmpty then none else some text
  | none => none

namespace Diagnostic

/-- `error`, with the code if there is one, and the message. -/
def header (diagnostic : Diagnostic) : Row :=
  let code := (present diagnostic.code).elim "" fun code => "[" ++ code ++ "]"
  [⟨[.bold, .red], "error" ++ code⟩, ⟨[.bold], ": " ++ diagnostic.message⟩]

/-- The arrow to a place, where line numbers have `width` digits. -/
def arrow (width : Nat) (place : String) : Row :=
  [⟨[.bold, .blue], fill width ' ' ++ "--> "⟩, ⟨[], place⟩]

/-- An empty row beside the line numbers. -/
def gutter (width : Nat) : Row :=
  [⟨[.bold, .blue], fill (width + 1) ' ' ++ "|"⟩]

/-- A row of advice. -/
def adviceRow (width : Nat) (kind advice : String) : Row :=
  [⟨[.bold, .cyan], fill (width + 1) ' ' ++ "= "⟩, ⟨[.bold], kind ++ ": "⟩, ⟨[], advice⟩]

/-- The rows of advice, after an empty row, if there are any (`_append_annotations`). -/
def adviceRows (diagnostic : Diagnostic) (width : Nat) : List Row :=
  let help := (present diagnostic.help).elim [] fun help => [adviceRow width "help" help]
  let note := (present diagnostic.note).elim [] fun note => [adviceRow width "note" note]
  if help.isEmpty && note.isEmpty then [] else gutter width :: help ++ note

/-- The columns before a place. -/
def indent (place : Location) : Int :=
  max place.column 1 - 1

/-- The columns of a place: one, or its extent. -/
def extent (place : Location) : Int :=
  if place.column < place.endColumn then place.endColumn - place.column else 1

/-- The carets under a place. -/
def carets (place : Location) : String :=
  fill (indent place).toNat ' ' ++ fill (extent place).toNat '^'

/-- The source row and the carets under it. -/
def excerpt (diagnostic : Diagnostic) (width : Nat) (place : Location) (source : String) : List Row :=
  let label := (present diagnostic.label).elim "" fun label => " " ++ label
  [gutter width,
   [⟨[.bold, .blue], toString place.line ++ " | "⟩, ⟨[], source⟩],
   [⟨[.bold, .blue], fill (width + 1) ' ' ++ "| "⟩, ⟨[.bold, .red], carets place ++ label⟩]]

/-- The rows of a diagnostic. -/
def rows (diagnostic : Diagnostic) (sources : List SourceText) : List Row :=
  diagnostic.header ::
    match diagnostic.location with
    | none => arrow 1 "<unknown location>" :: diagnostic.adviceRows 1
    | some place =>
      match place.row? sources with
      | none => arrow 1 place.text :: diagnostic.adviceRows 1
      | some source =>
        let width := (toString place.line).length
        arrow width place.text :: diagnostic.excerpt width place source ++ diagnostic.adviceRows width

/-- The diagnostic as text (`_format_diagnostic`). -/
def render (diagnostic : Diagnostic) (sources : List SourceText) (colour : Bool) : String :=
  "\n".intercalate ((diagnostic.rows sources).map (Row.render colour))

/-- Why the row of carets cannot be made, where there is one. -/
def layoutFault? [Limits] (diagnostic : Diagnostic) (sources : List SourceText) : Option CapacityFault :=
  diagnostic.location.bind fun place =>
    if (place.row? sources).isSome then
      capacityFault? Limits.characters (indent place) <|> capacityFault? Limits.characters (extent place)
    else none

/-- The diagnostic as text, if it can be laid out. -/
def print [Limits] (diagnostic : Diagnostic) (sources : List SourceText) (colour : Bool) : Except CapacityFault String :=
  match diagnostic.layoutFault? sources with
  | some fault => .error fault
  | none => .ok (diagnostic.render sources colour)

end Diagnostic

end Utterance
