import Mathlib.Data.List.Forall2
import Utterance.Proofs.Basic
import Utterance.Proofs.DiagnosticRows
import Utterance.Proofs.Rows

/-!
# Colour

In colour, a report has escape sequences before and after the spans of its rows, and nothing else is different: without
these sequences it is the report as it is written without colour (`eraseSequences_print`). The texts of the report may
be any, as long as none of them has an escape character; digits, brackets and letters in them are not taken for parts of
a sequence.
-/

namespace Utterance
set_option autoImplicit false

/-- The character that an escape sequence starts with. -/
def escape : Char := '\x1b'

/-- Whether a character can stand between the bracket and the `m` of a sequence. -/
def isParameter (c : Char) : Bool :=
  c.isDigit || c == ';'

/-- How many characters after an escape character belong to a sequence: a bracket, digits and semicolons, and an `m`. -/
def sequenceLength? : List Char → Option Nat
  | '[' :: rest =>
    let parameters := rest.takeWhile isParameter
    if (rest.drop parameters.length).head? = some 'm' then some (parameters.length + 2) else none
  | _ => none

/-- The text without its sequences, where the first `left` characters belong to one. -/
def eraseFrom : (left : Nat) → List Char → List Char
  | _, [] => []
  | left + 1, _ :: rest => eraseFrom left rest
  | 0, c :: rest =>
    if c = escape then
      match sequenceLength? rest with
      | some length => eraseFrom length rest
      | none => c :: eraseFrom 0 rest
    else c :: eraseFrom 0 rest

/-- The text without its sequences. -/
def eraseSequences (text : String) : String :=
  String.ofList (eraseFrom 0 text.toList)

/-- The character occurs neither in the diagnostics of the report nor in its sources. -/
structure Report.IsFree (c : Char) (report : Report) : Prop where
  diagnostics : ∀ diagnostic ∈ report.diagnostics, diagnostic.IsFree c
  sources : ∀ source ∈ report.sources, c ∉ source.text.toList

/-! ## Erasing -/

theorem eraseFrom_eq_drop (left : Nat) (text : List Char) : eraseFrom left text = eraseFrom 0 (text.drop left) := by
  induction left generalizing text with
  | zero => rfl
  | succ left ih =>
    cases text with
    | nil => rfl
    | cons c rest =>
      rw [eraseFrom, List.drop_succ_cons]
      exact ih rest

theorem sequenceLength?_eq_some {parameters rest : List Char} (all : ∀ c ∈ parameters, isParameter c = true) :
    sequenceLength? ('[' :: (parameters ++ 'm' :: rest)) = some (parameters.length + 2) := by
  have run : (parameters ++ 'm' :: rest).takeWhile isParameter = parameters := by
    refine takeWhile_append_stop all ?_
    rintro _ ⟨⟩
    decide
  simp only [sequenceLength?, run, List.drop_left, List.head?_cons, if_true]

/-- Erasing takes away the first text up to what it is without colour, whatever follows. -/
def Fades (coloured plain : List Char) : Prop :=
  ∀ rest, eraseFrom 0 (coloured ++ rest) = plain ++ eraseFrom 0 rest

namespace Fades

variable {coloured plain colouredToo plainToo : List Char}

theorem nil : Fades [] [] :=
  fun _ => rfl

theorem append (first : Fades coloured plain) (second : Fades colouredToo plainToo) :
    Fades (coloured ++ colouredToo) (plain ++ plainToo) := by
  intro rest
  rw [List.append_assoc, first, second, List.append_assoc]

/-- A text without escape characters stays. -/
theorem of_notMem {text : List Char} (free : escape ∉ text) : Fades text text := by
  intro rest
  induction text with
  | nil => rfl
  | cons c text ih =>
    rw [List.mem_cons, not_or] at free
    rw [List.cons_append, eraseFrom, if_neg (Ne.symm free.1), ih free.2, List.cons_append]

theorem sequence (parameters : List Char) (all : ∀ c ∈ parameters, isParameter c = true) :
    Fades (escape :: '[' :: (parameters ++ ['m'])) [] := by
  intro rest
  have length := @sequenceLength?_eq_some parameters rest all
  have rearranged : escape :: '[' :: (parameters ++ ['m']) ++ rest =
      escape :: '[' :: (parameters ++ 'm' :: rest) := by simp
  have dropped : ('[' :: (parameters ++ 'm' :: rest)).drop (parameters.length + 2) = rest := by
    rw [List.drop_succ_cons, List.drop_append, List.drop_eq_nil_of_le (Nat.le_succ _), Nat.succ_sub (Nat.le_refl _),
      Nat.sub_self]
    rfl
  rw [rearranged, eraseFrom, if_pos rfl, length]
  show eraseFrom (parameters.length + 2) ('[' :: (parameters ++ 'm' :: rest)) = eraseFrom 0 rest
  rw [eraseFrom_eq_drop, dropped]

-- What only looks like a sequence stays, and so does one that is not finished.
example : eraseSequences "\x1b[1;31merror\x1b[0m[0m 1m \x1b[2" = "error[0m 1m \x1b[2" := by decide

variable {pieces others : List (List Char)}

theorem flatten (all : List.Forall₂ Fades pieces others) : Fades pieces.flatten others.flatten := by
  induction all with
  | nil => exact nil
  | cons first _ ih => exact first.append ih

theorem intercalate {separator : List Char} (free : escape ∉ separator) (all : List.Forall₂ Fades pieces others) :
    Fades (separator.intercalate pieces) (separator.intercalate others) := by
  induction all with
  | nil => exact nil
  | cons first rest ih =>
    cases rest with
    | nil => simpa using first
    | cons second later =>
      rw [List.intercalate_cons_cons, List.intercalate_cons_cons]
      exact (first.append (of_notMem free)).append ih

end Fades

/-! ## Spans and rows -/

theorem Tint.fades_sequence (tint : Tint) : Fades tint.sequence.toList [] := by
  cases tint with
  | bold => exact Fades.sequence ['1'] (by simp [isParameter])
  | red => exact Fades.sequence ['3', '1'] (by simp [isParameter])
  | blue => exact Fades.sequence ['3', '4'] (by simp [isParameter])
  | cyan => exact Fades.sequence ['3', '6'] (by simp [isParameter])

theorem fades_tintReset : Fades tintReset.toList [] :=
  Fades.sequence ['0'] (by simp [isParameter])

theorem fades_tints (tints : List Tint) : Fades (String.join (tints.map Tint.sequence)).toList [] := by
  rw [String.toList_join]
  induction tints with
  | nil => exact .nil
  | cons tint rest ih => exact tint.fades_sequence.append ih

theorem Span.fades_render {span : Span} (free : escape ∉ span.text.toList) :
    Fades (span.render true).toList (span.render false).toList := by
  have without : span.render false = span.text := by rw [Span.render, Bool.false_and, if_neg Bool.false_ne_true]
  rw [without, Span.render]
  split
  · have tinted := ((fades_tints span.tints).append (.of_notMem free)).append fades_tintReset
    rw [String.toList_append, String.toList_append]
    rwa [List.nil_append, List.append_nil] at tinted
  · exact .of_notMem free

theorem Row.fades_render {row : Row} (free : row.IsFree escape) :
    Fades (row.render true).toList (row.render false).toList := by
  rw [Row.render, Row.render, String.toList_join, String.toList_join, List.flatMap_def, List.flatMap_def]
  refine .flatten ?_
  simp only [List.forall₂_map_left_iff, List.forall₂_map_right_iff, List.forall₂_same]
  exact fun span member => Span.fades_render (free span member)

/-! ## Reports -/

theorem Location.notMem_row {c : Char} {place : Location} {sources : List SourceText}
    (free : ∀ source ∈ sources, c ∉ source.text.toList) : ∀ row ∈ place.row? sources, c ∉ row.toList := by
  intro row found member
  obtain ⟨source, isSource, isRow⟩ := Option.bind_eq_some_iff.1 found
  rw [SourceText.row?] at isRow
  split at isRow
  · cases isRow
  · obtain ⟨line, listed, rfl⟩ := Option.map_eq_some_iff.1 isRow
    rw [String.toList_ofList] at member
    exact free source (List.mem_of_find?_eq_some isSource) (Text.mem_of_mem_rows (List.mem_of_getElem? listed) member)

theorem Diagnostic.fades_render {diagnostic : Diagnostic} {sources : List SourceText} (free : diagnostic.IsFree escape)
    (plain : ∀ source ∈ sources, escape ∉ source.text.toList) :
    Fades (diagnostic.render sources true).toList (diagnostic.render sources false).toList := by
  have control : isGraphic escape = false := by decide
  have rows := Diagnostic.isFree_rows control free fun place _ => Location.notMem_row plain
  have separator : escape ∉ "\n".toList := by decide
  rw [render, render, String.toList_intercalate, String.toList_intercalate, List.map_map, List.map_map]
  refine .intercalate separator ?_
  simp only [List.forall₂_map_left_iff, List.forall₂_map_right_iff, List.forall₂_same]
  exact fun row member => Row.fades_render (rows row member)

theorem Report.isFree_summary {c : Char} (control : isGraphic c = false) (count : Nat) : Row.IsFree c (summary count) := by
  have noun : ∀ plural : Prop, [Decidable plural] → c ∉ (if plural then "error" else "errors").toList := by
    intro plural _
    split
    · exact notMem_of_isGraphic control (by decide)
    · exact notMem_of_isGraphic control (by decide)
  have start : c ∉ ": aborting due to ".toList := notMem_of_isGraphic control (by decide)
  have middle : c ∉ " previous ".toList := notMem_of_isGraphic control (by decide)
  have word : c ∉ "error".toList := notMem_of_isGraphic control (by decide)
  have number : c ∉ (toString count).toList := notMem_number control count
  refine List.forall_mem_cons.2 ⟨word, List.forall_mem_singleton.2 ?_⟩
  exact notMem_append (notMem_append (notMem_append start number) middle) (noun _)

theorem Report.fades_render {report : Report} (free : report.IsFree escape) :
    Fades (report.render true).toList (report.render false).toList := by
  have separator : escape ∉ "\n\n".toList := by decide
  have summary := Row.fades_render (isFree_summary (by decide) report.diagnostics.length)
  rw [render, render, String.toList_intercalate, String.toList_intercalate, List.map_append, List.map_append]
  refine .intercalate separator (List.rel_append ?_ (.cons summary .nil))
  simp only [List.map_map, List.forall₂_map_left_iff, List.forall₂_map_right_iff, List.forall₂_same]
  exact fun diagnostic member => Diagnostic.fades_render (free.diagnostics diagnostic member) free.sources

/-- A report in colour is the same report with escape sequences added, if it can be laid out; if not, it is refused in
colour for the same reason. -/
theorem Report.eraseSequences_print [Limits] {report : Report} (free : report.IsFree escape) :
    (report.print true).map eraseSequences = report.print false := by
  have erased : eraseSequences (report.render true) = report.render false := by
    have all := Report.fades_render free []
    rw [List.append_nil, eraseFrom, List.append_nil] at all
    rw [eraseSequences, all, String.ofList_toList]
  rw [print, print]
  split
  · rfl
  · exact congrArg Except.ok erased

/-- Texts that look like parts of sequences: in a place that is not known, in one whose source is not known, and in a
row. -/
def bracketedReport : Report where
  sources := [⟨"rules", "[31m\n'a' 0;1m", 1⟩]
  diagnostics :=
    [{ message := "1m", location := none, note := some "[0m" },
      { message := "[1m", location := some ⟨"m", -2, 0, 7⟩, help := some "" },
      { message := "m", location := some ⟨"rules", 2, 3, 5⟩, code := some "31", help := some "0", label := some "[m" }]

section Bracketed
open scoped Workstation

theorem Report.eraseSequences_print_bracketed : bracketedReport.IsFree escape ∧
    bracketedReport.print true ≠ bracketedReport.print false ∧
    (bracketedReport.print true).map eraseSequences = bracketedReport.print false := by
  have free : bracketedReport.IsFree escape := by
    refine ⟨?_, ?_⟩
    · simp only [bracketedReport, List.forall_mem_cons]
      refine ⟨?_, ?_, ?_, fun _ member => absurd member List.not_mem_nil⟩ <;> constructor <;> simp [escape]
    · simp [bracketedReport, escape]
  exact ⟨free, by decide +kernel, Report.eraseSequences_print free⟩

end Bracketed

end Utterance
