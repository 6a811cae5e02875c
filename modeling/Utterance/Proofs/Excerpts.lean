import Utterance.Proofs.PatternLines
import Utterance.Proofs.Rows

/-!
# The source rows of reports

The lines of a pattern file end at every separator, the rows that a report can show only at line feeds. As long as the
line feed is the only separator that came up, the two are the same, and a report shows the line that it is about under
its number (`excerpt_compile`). After any other separator it shows another row, or none.
-/

namespace Utterance
set_option autoImplicit false

/-! ## Lines and rows -/

namespace Text

/-- No other separator than the line feed stands in the first rows of a text. -/
def IsPlainThrough (text : List Char) (count : Nat) : Prop :=
  ∀ row ∈ (rows text).take count, ∀ c ∈ row, isLineEnd c = false

instance (text : List Char) (count : Nat) : Decidable (IsPlainThrough text count) :=
  decidable_of_iff (((rows text).take count).all fun row => row.all fun c => !isLineEnd c) (by simp [IsPlainThrough])

theorem IsPlainThrough.first {c : Char} {text : List Char} {count : Nat} (plain : IsPlainThrough (c :: text) (count + 1))
    (other : c ≠ '\n') : isLineEnd c = false ∧ IsPlainThrough text (count + 1) := by
  obtain ⟨row, rest, split⟩ := exists_rows_eq_cons text
  rw [IsPlainThrough, rows_of_ne other, split, consFirst, List.take_succ_cons, List.forall_mem_cons,
    List.forall_mem_cons] at plain
  obtain ⟨⟨first, row⟩, later⟩ := plain
  rw [IsPlainThrough, split, List.take_succ_cons, List.forall_mem_cons]
  exact ⟨first, row, later⟩

theorem IsPlainThrough.rest {text : List Char} {count : Nat} (plain : IsPlainThrough ('\n' :: text) (count + 1)) :
    IsPlainThrough text count := by
  rw [IsPlainThrough, rows_of_linefeed, List.take_succ_cons, List.forall_mem_cons] at plain
  exact plain.2

theorem getElem?_consFirst_zero {c : Char} {lines : List (List Char)} {line : List Char}
    (found : lines[0]? = some line) : (consFirst c lines)[0]? = some (c :: line) := by
  cases lines with
  | nil => cases found
  | cons first rest =>
    cases found
    rfl

theorem getElem?_consFirst_succ (c : Char) (lines : List (List Char)) (index : Nat) :
    (consFirst c lines)[index + 1]? = lines[index + 1]? := by
  cases lines <;> rfl

theorem lines_ne_nil {text : List Char} (nonempty : text ≠ []) : lines text ≠ [] := by
  fun_cases lines text with
  | case1 => exact absurd rfl nonempty
  | case2 rest => simp
  | case3 c rest _ ends => simp
  | case4 c rest _ inside => cases lines rest <;> simp [consFirst]

/-- Lines and rows agree as far as a text is plain. -/
theorem getElem?_rows_of_lines {text line : List Char} {index : Nat} (found : (lines text)[index]? = some line)
    (plain : IsPlainThrough text (index + 1)) : (rows text)[index]? = some line := by
  fun_induction lines text generalizing index line with
  | case1 => cases found
  | case2 rest ih =>
    -- The carriage return is in the first row, so the text is not plain.
    have impossible := (plain.first (by decide)).1
    cases impossible
  | case3 c rest _ ends ih =>
    by_cases linefeed : c = '\n'
    · subst linefeed
      cases index with
      | zero => exact found
      | succ index => exact ih found plain.rest
    · have inside := (plain.first linefeed).1
      rw [ends] at inside
      cases inside
  | case4 c rest _ inside ih =>
    have other : c ≠ '\n' := by
      rintro rfl
      exact inside (by decide)
    rw [rows_of_ne other]
    cases index with
    | zero =>
      -- After the last character there is no line, but there is an empty row.
      by_cases ended : rest = []
      · subst ended
        exact found
      · obtain ⟨first, more, cut⟩ := List.exists_cons_of_ne_nil (lines_ne_nil ended)
        have same := ih (by rw [cut]; rfl) (plain.first other).2
        rw [cut, consFirst] at found
        cases found
        exact getElem?_consFirst_zero same
    | succ index =>
      rw [getElem?_consFirst_succ] at found ⊢
      exact ih found (plain.first other).2

end Text

/-! ## Rows of a diagnostic -/

/-- The row of a diagnostic that shows a numbered line. -/
def lineRow (number : Int) (line : String) : Row :=
  [⟨[.bold, .blue], toString number ++ " | "⟩, ⟨[], line⟩]

/-- The row below the arrow and the gutter is that of the source, if the place has one. -/
theorem Diagnostic.getElem?_rows {diagnostic : Diagnostic} {sources : List SourceText} {place : Location} {line : String}
    (known : diagnostic.location = some place) (found : place.row? sources = some line) :
    (diagnostic.rows sources)[3]? = some (lineRow place.line line) := by
  rw [Diagnostic.rows, known]
  simp only [found]
  rfl

theorem Location.row?_eq_some {place : Location} {file text : String} {index : Nat} {row : List Char}
    (sameFile : place.file = file) (number : place.line = index + 1) (found : (Text.rows text.toList)[index]? = some row) :
    place.row? [⟨file, text, 1⟩] = some (String.ofList row) := by
  have positive : ¬(index + 1 : Int) < 1 := by omega
  simp [Location.row?, SourceText.row?, sameFile, number, positive, found]

/-! ## Reports of a file -/

variable {transliterate : Transliterator}

/-- A pattern of a text is the line with its number. -/
theorem getElem?_lines_of_mem {text file : String} {source : Pattern.Source} (listed : source ∈ patternSources text file) :
    ∃ index : Nat, source.line = index + 1 ∧ source.file = file ∧
      (Text.lines text.toList)[index]? = some source.pattern.toList := by
  obtain ⟨⟨line, number⟩, member, rfl⟩ := List.mem_map.1 listed
  obtain ⟨after, found⟩ := List.mem_zipIdx_iff_le_and_getElem?_sub.1 (List.mem_filter.1 member).1
  refine ⟨number - 1, ?_, rfl, ?_⟩
  · simp only
    omega
  · rw [found]
    exact congrArg some String.toList_ofList.symm

namespace Session

theorem sources_compile [Limits] (transliterate : Transliterator) (session : Session) (text file : String) :
    (session.compile transliterate text file).report.sources = [⟨file, text, 1⟩] := by
  rw [compile_eq]
  rfl

/-- Whatever is reported was reported of a trial. -/
theorem exists_trial_of_mem_diagnostics [Limits] {session : Session} {text file : String} {diagnostic : Diagnostic}
    (listed : diagnostic ∈ (session.compile transliterate text file).report.diagnostics) :
    ∃ trial ∈ session.trials transliterate (patternSources text file), trial.report? transliterate = some diagnostic := by
  rw [compile_eq] at listed
  obtain ⟨trial, member, told⟩ := List.mem_filterMap.1 listed
  exact ⟨trial, (List.takeWhile_prefix _).subset member, told⟩

/-- Every report of a text shows the row with the number of the line that it is about. This is the line itself, if the
text is plain as far as this line. -/
theorem excerpt_compile [Limits] (transliterate : Transliterator) (session : Session) (text file : String) :
    ∀ diagnostic ∈ (session.compile transliterate text file).report.diagnostics,
      ∃ trial ∈ session.trials transliterate (patternSources text file),
        trial.report? transliterate = some diagnostic ∧
        (∀ row, (Text.rows text.toList)[trial.source.line.toNat - 1]? = some row →
          (diagnostic.rows (session.compile transliterate text file).report.sources)[3]? =
            some (lineRow trial.source.line (String.ofList row))) ∧
        (Text.IsPlainThrough text.toList trial.source.line.toNat →
          (diagnostic.rows (session.compile transliterate text file).report.sources)[3]? =
            some (lineRow trial.source.line trial.source.pattern)) := by
  intro diagnostic listed
  obtain ⟨trial, member, told⟩ := exists_trial_of_mem_diagnostics listed
  have among : trial.source ∈ patternSources text file := by
    rw [← session.map_source_trials transliterate (patternSources text file)]
    exact List.mem_map_of_mem member
  obtain ⟨index, number, sameFile, found⟩ := getElem?_lines_of_mem among
  obtain ⟨error, reports⟩ := Trial.exists_reports told
  obtain ⟨place, known, placeFile, placeLine, _⟩ := reports.place
  have shows : ∀ row, (Text.rows text.toList)[index]? = some row →
      (diagnostic.rows (session.compile transliterate text file).report.sources)[3]? =
        some (lineRow trial.source.line (String.ofList row)) := by
    intro row inText
    have shown := Location.row?_eq_some (placeFile.trans sameFile) (placeLine.trans number) inText
    rw [sources_compile, Diagnostic.getElem?_rows known shown, placeLine]
  have position : trial.source.line.toNat = index + 1 := by omega
  refine ⟨trial, member, told, ?_, ?_⟩
  · rw [position]
    exact shows
  · intro plain
    rw [position] at plain
    have same := shows _ (Text.getElem?_rows_of_lines found plain)
    rwa [String.ofList_toList] at same

/-- A text that is no pattern, with a form feed after it but none before it. -/
def laterText : String := "'a'\n)\n'b'\x0c'c'"

section
open scoped Workstation

theorem excerpt_compile_later : Text.IsPlainThrough laterText.toList 2 ∧
    ∃ diagnostic ∈ (compile .verbatim {} laterText).report.diagnostics,
      (diagnostic.rows (compile .verbatim {} laterText).report.sources)[3]? = some (lineRow 2 ")") := by
  have plain : Text.IsPlainThrough laterText.toList 2 := by decide +kernel
  obtain ⟨diagnostic, listed⟩ : ∃ diagnostic, diagnostic ∈ (compile .verbatim {} laterText).report.diagnostics :=
    List.exists_mem_of_ne_nil _ (by decide +kernel)
  have only : ∀ trial ∈ trials .verbatim {} (patternSources laterText "<patterns>"),
      (trial.report? .verbatim).isSome → trial.source = ⟨")", "<patterns>", 2⟩ := by
    decide +kernel
  obtain ⟨trial, member, told, _, shows⟩ := excerpt_compile .verbatim {} laterText "<patterns>" diagnostic listed
  rw [only trial member (by rw [told]; rfl)] at shows
  exact ⟨plain, diagnostic, listed, shows plain⟩

end

/-- What the reports of a text show below the arrow and the gutter. -/
def excerpts [Limits] (text : String) : List (Option Row) :=
  (compile .verbatim {} text).report.diagnostics.map fun diagnostic =>
    (diagnostic.rows (compile .verbatim {} text).report.sources)[3]?

section
open scoped Workstation

/-- After a form feed there is no row for the line, and a carriage return becomes part of the row. -/
theorem excerpts_of_separators :
    patternSources "'a'\x0c)" "<patterns>" = [⟨"'a'", "<patterns>", 1⟩, ⟨")", "<patterns>", 2⟩] ∧
      excerpts "'a'\x0c)" = [none] ∧
      patternSources ")\r\n" "<patterns>" = [⟨")", "<patterns>", 1⟩] ∧ excerpts ")\r\n" = [some (lineRow 1 ")\r")] := by
  decide +kernel

end

end Session

end Utterance
