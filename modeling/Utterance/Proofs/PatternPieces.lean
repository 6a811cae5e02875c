import Utterance.Proofs.Excerpts
import Utterance.Proofs.Parsing
import Utterance.Proofs.PatternLines

/-!
# Pattern files in pieces

A pattern file can be cut after any of its lines. Compiling the pieces one after the other gives what compiling the
whole gives: the same session, the same number of patterns added and the same reports (`joins_compile`). Only the line
numbers of the second piece start again at 1, and all that depends on the number of a line is the place of an error.
-/

namespace Utterance
set_option autoImplicit false

/-! ## Places further down -/

/-- The place so many lines further down. -/
def Location.below (count : Nat) (place : Location) : Location :=
  { place with line := place.line + count }

namespace Pattern

/-- The pattern so many lines further down. -/
def Source.below (count : Nat) (source : Source) : Source :=
  { source with line := source.line + count }

end Pattern

/-- The error so many lines further down. -/
def PatternError.below (count : Nat) (error : PatternError) : PatternError :=
  { error with location := error.location.map (Location.below count) }

namespace Pattern

/-- The error so many lines further down, if it has a place. -/
def ParseError.below (count : Nat) : ParseError → ParseError
  | .rejected error => .rejected (error.below count)
  | other => other

end Pattern

/-- The error so many lines further down, if it has a place. -/
def UserError.below (count : Nat) : UserError → UserError
  | .general message location => .general message (location.map (Location.below count))
  | .pattern error => .pattern (error.below count)
  | other => other

/-- The failure so many lines further down, if it has a place. -/
def Failure.below (count : Nat) : Failure → Failure
  | .user error => .user (error.below count)
  | other => other

/-- The diagnostic so many lines further down; all else is the same. -/
def Diagnostic.below (count : Nat) (diagnostic : Diagnostic) : Diagnostic :=
  { diagnostic with location := diagnostic.location.map (Location.below count) }

/-- The text ends with the end of a line, also when the rest follows: the two do not meet within a carriage return and
its line feed. -/
def Text.EndsLine (text rest : List Char) : Prop :=
  ∃ c ∈ text.getLast?, isLineEnd c = true ∧ (c = '\r' → rest.head? ≠ some '\n')

/-- The compilations of two texts, of which the first has so many lines, come to that of both in one. -/
structure Compilation.Joins (lines : Nat) (first second whole : Compilation) : Prop where
  finished : first.aborted = none
  finishedToo : second.aborted = none
  session : second.session = whole.session
  compiled : first.compiled + second.compiled = whole.compiled
  /-- the reports are the same, with the line numbers that the lines have in the whole -/
  diagnostics : first.report.diagnostics ++ second.report.diagnostics.map (Diagnostic.below lines) =
    whole.report.diagnostics

/-! ## Lines -/

namespace Text

/-- Unless a carriage return stands before a line feed, a character ends a line or belongs to it. -/
theorem lines_cons {c : Char} {rest : List Char} (apart : c = '\r' → rest.head? ≠ some '\n') :
    lines (c :: rest) = if isLineEnd c then [] :: lines rest else consFirst c (lines rest) := by
  rw [lines]
  rintro after rfl rfl
  exact apart rfl rfl

theorem EndsLine.rest {c : Char} {text second : List Char} (ends : EndsLine (c :: text) second) :
    text = [] ∨ EndsLine text second := by
  cases text with
  | nil => exact .inl rfl
  | cons next others =>
    obtain ⟨last, isLast, others⟩ := ends
    exact .inr ⟨last, by simpa [List.getLast?_cons_cons] using isLast, others⟩

/-- The lines of two texts are those of both in one, if the first ends with the end of a line. -/
theorem lines_append {first second : List Char} (ends : first = [] ∨ EndsLine first second) :
    lines (first ++ second) = lines first ++ lines second := by
  fun_induction lines first with
  | case1 => rfl
  | case2 rest ih =>
    have later : rest = [] ∨ EndsLine rest second := by
      obtain nothing | ends := (ends.resolve_left (by simp)).rest
      · cases nothing
      · exact ends.rest
    rw [List.cons_append, List.cons_append, lines, ih later, List.cons_append]
  | case3 c rest apart isEnd ih =>
    have ends := ends.resolve_left (by simp)
    have apartToo : c = '\r' → (rest ++ second).head? ≠ some '\n' := by
      intro isReturn
      cases rest with
      | nil =>
        obtain ⟨last, isLast, _, free⟩ := ends
        cases isLast
        exact free isReturn
      | cons next others =>
        rintro ⟨⟩
        exact apart others isReturn rfl
    rw [List.cons_append, lines_cons apartToo, if_pos isEnd, ih ends.rest, List.cons_append]
  | case4 c rest apart inside ih =>
    have ends := ends.resolve_left (by simp)
    -- The last character ends a line and this one does not, so there are more.
    have more : rest ≠ [] := by
      rintro rfl
      obtain ⟨last, isLast, isEnd, _⟩ := ends
      cases isLast
      exact inside isEnd
    obtain ⟨next, others, rfl⟩ := List.exists_cons_of_ne_nil more
    obtain ⟨line, later, cut⟩ := List.exists_cons_of_ne_nil (lines_ne_nil more)
    have apartToo : c = '\r' → ((next :: others) ++ second).head? ≠ some '\n' := by
      rintro isReturn ⟨⟩
      exact apart others isReturn rfl
    rw [List.cons_append, lines_cons apartToo, if_neg inside, ih ends.rest, cut, List.cons_append, consFirst, consFirst,
      List.cons_append]

end Text

theorem zipIdx_below (lines : List (List Char)) (number count : Nat) :
    lines.zipIdx (number + count) = (lines.zipIdx number).map fun line => (line.1, line.2 + count) := by
  induction lines generalizing number with
  | nil => rfl
  | cons line rest ih => rw [List.zipIdx_cons, List.zipIdx_cons, List.map_cons, ← ih, Nat.add_right_comm]

/-- The patterns of the second text stand below the lines of the first. -/
theorem patternSources_append {first second : String} (file : String) (ends : Text.EndsLine first.toList second.toList) :
    patternSources (first ++ second) file = patternSources first file ++
      (patternSources second file).map (Pattern.Source.below (Text.lines first.toList).length) := by
  simp only [patternSources, String.toList_append, Text.lines_append (.inr ends), List.zipIdx_append, zipIdx_below,
    List.filter_append, List.map_append, List.filter_map, List.map_map]
  rfl

/-! ## One pattern -/

/-- Whether a computation succeeds, or why not. -/
def verdict {ε α : Type} (result : Except ε α) : Except ε Unit :=
  result.map fun _ => ()

namespace Pattern

variable {source : Source} (count : Nat)

theorem Mark.step_below [Limits] (depth : Nat) (mark : Mark) : verdict (mark.step (source.below count) depth) =
    (verdict (mark.step source depth)).mapError (ParseError.below count) := by
  cases mark with
  | openGroup column =>
    rw [Mark.step, Mark.step]
    split <;> rfl
  | literal spelling column =>
    rw [Mark.step, Mark.step]
    cases (literalText spelling).isEmpty <;> rfl
  | exactly number =>
    rw [Mark.step, Mark.step, Numeral.value]
    split <;> rfl
  | range least most =>
    rw [Mark.step, Mark.step, Numeral.value, Numeral.value]
    split
    · split
      · show verdict (if _ then _ else _) = (verdict (if _ then _ else _)).mapError _
        split <;> rfl
      · rfl
    · rfl
  | _ => rfl

theorem verdict_buildSteps_cons [Limits] (source : Source) (depth : Nat) (mark : Mark) (rest : List Mark) :
    verdict (buildSteps source depth (mark :: rest)) =
      (verdict (mark.step source depth)).bind fun _ => verdict (buildSteps source (mark.depthAfter depth) rest) := by
  rw [buildSteps]
  cases mark.step source depth with
  | error error => rfl
  | ok step => cases buildSteps source (mark.depthAfter depth) rest <;> rfl

theorem buildSteps_below [Limits] (depth : Nat) (marks : List Mark) :
    verdict (buildSteps (source.below count) depth marks) =
      (verdict (buildSteps source depth marks)).mapError (ParseError.below count) := by
  induction marks generalizing depth with
  | nil => rfl
  | cons mark rest ih =>
    rw [verdict_buildSteps_cons, verdict_buildSteps_cons, Mark.step_below, ih]
    cases verdict (mark.step source depth) <;> rfl

theorem Source.refusal_below (refusal : Refusal) : (source.below count).refusal refusal =
    ((source.refusal refusal).1, (source.refusal refusal).2.below count) := by
  cases refusal with
  | tooShort => rfl
  | lexeme lexeme =>
    obtain ⟨token, column⟩ := lexeme
    cases token <;> rfl

/-- Building a table cannot fail, so only the marks and their steps decide. -/
theorem verdict_parse [Limits] (source : Source) : verdict (parse source) =
    match marks source.pattern.toList with
    | .error refusal => source.reject (source.refusal refusal).1 (source.refusal refusal).2
    | .ok marks => verdict (buildSteps source 0 marks) := by
  cases result : parse source with
  | ok table =>
    obtain ⟨marks, steps, read, stepped, _⟩ := parse_eq_ok_iff.1 result
    simp only [read, stepped]
    rfl
  | error error =>
    obtain ⟨refusal, read, rfl⟩ | ⟨marks, read, failed⟩ := parse_eq_error_iff.1 result
    · rw [read]
      rfl
    · simp only [read, failed]
      rfl

/-- Whether a pattern is accepted does not depend on its line, and only the place of an error does. -/
theorem parse_below [Limits] (source : Source) : verdict (parse (source.below count)) =
    (verdict (parse source)).mapError (ParseError.below count) := by
  have samePattern : (source.below count).pattern = source.pattern := rfl
  rw [verdict_parse, verdict_parse, samePattern]
  cases marks source.pattern.toList with
  | error refusal =>
    simp only [Source.refusal_below]
    rfl
  | ok marks => exact buildSteps_below count 0 marks

/-- What an accepted pattern means depends only on its text. -/
theorem chain_eq_of_parse [Limits] {source other : Source} {table tableToo : NodeTable} (accepted : parse source = .ok table)
    (acceptedToo : parse other = .ok tableToo) (same : other.pattern = source.pattern) :
    tableToo.chain = table.chain := by
  obtain ⟨expression, spelled, denotes⟩ := exists_spelledBy_of_parse accepted
  obtain ⟨expressionToo, spelledToo, denotesToo⟩ := exists_spelledBy_of_parse acceptedToo
  rw [same] at spelledToo
  rw [denotes, denotesToo, SpelledBy.unique spelledToo spelled]

end Pattern

theorem Failure.below_ofParse (count : Nat) (error : Pattern.ParseError) :
    Failure.ofParse (error.below count) = (Failure.ofParse error).below count := by
  cases error <;> rfl

theorem Failure.below_ofLowering (count : Nat) (fault : LoweringFault) :
    (Failure.ofLowering fault).below count = Failure.ofLowering fault := by
  cases fault with
  | transliteration fault => cases fault <;> rfl
  | _ => rfl

theorem UserError.diagnostic_below (count : Nat) (error : UserError) (place : Location) :
    (error.below count).diagnostic (some (place.below count)) = (error.diagnostic (some place)).below count := by
  cases error with
  | general message location => cases location <;> rfl
  | pattern details =>
    obtain ⟨message, pattern, location, code, help, label⟩ := details
    cases location <;> rfl
  | symbolName name => rfl
  | unpronounceable error => rfl

section Lines

variable {transliterate : Transliterator} (count : Nat)

namespace Session

/-- A pattern further down is added in the same way, and what is wrong with it is wrong further down. -/
theorem add_below [Limits] (transliterate : Transliterator) (count : Nat) (session : Session) (source : Pattern.Source) :
    session.add transliterate (source.below count) =
      (session.add transliterate source).mapError (Failure.below count) := by
  have verdicts := Pattern.parse_below count source
  cases accepted : Pattern.parse source with
  | error error =>
    cases acceptedToo : Pattern.parse (source.below count) with
    | ok table =>
      rw [accepted, acceptedToo] at verdicts
      cases verdicts
    | error errorToo =>
      rw [accepted, acceptedToo] at verdicts
      obtain rfl : errorToo = error.below count := Except.error.inj verdicts
      rw [add_eq, add_eq, parse, parse, accepted, acceptedToo]
      exact congrArg Except.error (Failure.below_ofParse count error)
  | ok table =>
    cases acceptedToo : Pattern.parse (source.below count) with
    | error error =>
      rw [accepted, acceptedToo] at verdicts
      cases verdicts
    | ok tableToo =>
      have sameLowering :
          tableToo.lower transliterate session.nextNumber = table.lower transliterate session.nextNumber := by
        rw [NodeTable.lower_eq_sentence, NodeTable.lower_eq_sentence, Pattern.chain_eq_of_parse accepted acceptedToo rfl]
      rw [add_eq, add_eq, parse, parse, accepted, acceptedToo]
      show ((tableToo.lower transliterate session.nextNumber).mapError Failure.ofLowering >>= fun lowered =>
          pure (session.append lowered)) =
        ((table.lower transliterate session.nextNumber).mapError Failure.ofLowering >>= fun lowered =>
          pure (session.append lowered)).mapError (Failure.below count)
      rw [sameLowering]
      cases table.lower transliterate session.nextNumber with
      | ok lowered => rfl
      | error fault => exact congrArg Except.error (Failure.below_ofLowering count fault).symm

theorem after_below [Limits] (session : Session) (source : Pattern.Source) :
    session.after transliterate (.add (source.below count)) = session.after transliterate (.add source) := by
  have added := add_below transliterate count session source
  cases tried : session.add transliterate source with
  | ok next =>
    rw [tried] at added
    rw [after_add_of_ok added, after_add_of_ok tried]
  | error failure =>
    rw [tried] at added
    rw [after_add_of_error added, after_add_of_error tried]

theorem run_below [Limits] (session : Session) (sources : List Pattern.Source) :
    session.run transliterate ((sources.map (Pattern.Source.below count)).map .add) =
      session.run transliterate (sources.map .add) := by
  induction sources generalizing session with
  | nil => rfl
  | cons source rest ih =>
    rw [List.map_cons, List.map_cons, List.map_cons, run_cons, run_cons, after_below, ih]

end Session

/-! ## Trials -/

namespace Trial

/-- The trial of the same pattern so many lines further down. -/
def below (trial : Trial) : Trial :=
  { trial with source := trial.source.below count }

variable {trial : Trial}

theorem outcome_below [Limits] :
    (trial.below count).outcome transliterate = (trial.outcome transliterate).mapError (Failure.below count) :=
  Session.add_below transliterate count trial.session trial.source

theorem interruption?_below [Limits] :
    (trial.below count).interruption? transliterate = trial.interruption? transliterate := by
  have outcomes := @outcome_below transliterate count trial _
  cases tried : trial.outcome transliterate with
  | ok next =>
    rw [tried] at outcomes
    rw [interruption?, interruption?, outcomes, tried]
    rfl
  | error failure =>
    rw [tried] at outcomes
    rw [interruption?, interruption?, outcomes, tried]
    cases failure <;> rfl

theorem report?_below [Limits] :
    (trial.below count).report? transliterate = (trial.report? transliterate).map (Diagnostic.below count) := by
  have outcomes := @outcome_below transliterate count trial _
  cases tried : trial.outcome transliterate with
  | ok next =>
    rw [tried] at outcomes
    rw [report?_of_ok tried, report?_of_ok outcomes]
    rfl
  | error failure =>
    rw [tried] at outcomes
    rw [report?, report?, outcomes, tried]
    cases failure with
    | user error =>
      exact congrArg some (UserError.diagnostic_below count error ⟨trial.source.file, trial.source.line, 1, 0⟩)
    | _ => rfl

theorem added?_below [Limits] :
    (trial.below count).added? transliterate = (trial.added? transliterate).map (Pattern.Source.below count) := by
  have outcomes := @outcome_below transliterate count trial _
  cases tried : trial.outcome transliterate with
  | ok next =>
    rw [tried] at outcomes
    rw [added?_of_ok tried, added?_of_ok outcomes]
    rfl
  | error failure =>
    rw [tried] at outcomes
    rw [added?_of_error tried, added?_of_error outcomes]
    rfl

variable (transliterate) (trials : List Trial)

theorem filterMap_report?_below [Limits] : (trials.map (below count)).filterMap (report? transliterate) =
    (trials.filterMap (report? transliterate)).map (Diagnostic.below count) := by
  rw [List.filterMap_map, List.map_filterMap]
  exact List.filterMap_congr fun _ _ => report?_below count

theorem filterMap_added?_below [Limits] : (trials.map (below count)).filterMap (added? transliterate) =
    (trials.filterMap (added? transliterate)).map (Pattern.Source.below count) := by
  rw [List.filterMap_map, List.map_filterMap]
  exact List.filterMap_congr fun _ _ => added?_below count

end Trial

namespace Session

/-- The patterns of the second part are tried on the session that those of the first part make. -/
theorem trials_append [Limits] (session : Session) (first second : List Pattern.Source) :
    session.trials transliterate (first ++ second) = session.trials transliterate first ++
      (session.run transliterate (first.map .add)).trials transliterate second := by
  induction first generalizing session with
  | nil => rfl
  | cons source rest ih =>
    rw [List.cons_append, trials, trials, ih, List.cons_append, List.map_cons, run_cons]

theorem trials_below [Limits] (session : Session) (sources : List Pattern.Source) :
    session.trials transliterate (sources.map (Pattern.Source.below count)) =
      (session.trials transliterate sources).map (Trial.below count) := by
  induction sources generalizing session with
  | nil => rfl
  | cons source rest ih =>
    rw [List.map_cons, trials, trials, List.map_cons, after_below, ih]
    rfl

end Session

end Lines

/-! ## Files -/

namespace Session

variable {transliterate : Transliterator} {session : Session}

/-- What a text comes to in which no line ends the file early. -/
theorem compile_of_reportable [Limits] {text file : String}
    (reportable : ∀ trial ∈ session.trials transliterate (patternSources text file),
      trial.interruption? transliterate = none) :
    session.compile transliterate text file =
      Compilation.recorded transliterate { session, report := { sources := [⟨file, text, 1⟩] } }
        (session.trials transliterate (patternSources text file)) none := by
  rw [compile_eq, Trial.takeWhile_isReportable reportable, List.findSome?_eq_none_iff.2 reportable]

/-- A text whose first part ends with the end of a line, such as a line feed, can be compiled in two parts. If compiling
the whole comes to an end, so does compiling the parts one after the other, with the same session, as many patterns
added, and the same reports, where the lines of the second part are counted from 1 again. -/
theorem joins_compile [Limits] (transliterate : Transliterator) (session : Session) (first second file : String)
    (ends : Text.EndsLine first.toList second.toList)
    (finished : (session.compile transliterate (first ++ second) file).aborted = none) :
    Compilation.Joins (Text.lines first.toList).length (session.compile transliterate first file)
      ((session.compile transliterate first file).session.compile transliterate second file)
      (session.compile transliterate (first ++ second) file) := by
  have sources := patternSources_append file ends
  set count := (Text.lines first.toList).length
  set middle := session.run transliterate ((patternSources first file).map .add)
  have trials : session.trials transliterate (patternSources (first ++ second) file) =
      session.trials transliterate (patternSources first file) ++
        (middle.trials transliterate (patternSources second file)).map (Trial.below count) := by
    rw [sources, trials_append, trials_below]
  have reportable : ∀ trial ∈ session.trials transliterate (patternSources (first ++ second) file),
      trial.interruption? transliterate = none := by
    rwa [aborted_compile, List.findSome?_eq_none_iff] at finished
  have whole := compile_of_reportable reportable
  rw [trials, List.forall_mem_append, List.forall_mem_map] at reportable
  have firstPart := compile_of_reportable reportable.1
  have afterFirst : (session.compile transliterate first file).session = middle := by
    rw [firstPart, Compilation.recorded, map_source_trials]
  have reportableToo : ∀ trial ∈ middle.trials transliterate (patternSources second file),
      trial.interruption? transliterate = none := by
    intro trial member
    rw [← Trial.interruption?_below count]
    exact reportable.2 trial member
  have secondPart := compile_of_reportable reportableToo
  rw [afterFirst, whole, firstPart, secondPart]
  refine ⟨rfl, rfl, ?_, ?_, ?_⟩
  · simp only [Compilation.recorded, map_source_trials, sources, List.map_append, run_append, run_below]
    rfl
  · simp only [Compilation.recorded, trials, List.filterMap_append, Trial.filterMap_added?_below, List.length_append,
      List.length_map, Nat.zero_add]
  · simp only [Compilation.recorded, trials, List.filterMap_append, Trial.filterMap_report?_below, List.nil_append]

/-- A pattern, an empty line and a text that is no pattern, with carriage returns before the line feeds. -/
def upperText : String := "'a'\r\n\r\n)\r\n"

/-- An empty line, a word without phones and a pattern. -/
def lowerText : String := "\n'bad'\n<b>+"

section
open scoped Workstation

theorem joins_compile_returned : Text.EndsLine upperText.toList lowerText.toList ∧
    (compile (Transliterator.avoiding "bad") {} (upperText ++ lowerText)).aborted = none ∧
    (compile (Transliterator.avoiding "bad") {} (upperText ++ lowerText)).compiled = 2 ∧
    (compile (Transliterator.avoiding "bad") {} (upperText ++ lowerText)).report.diagnostics.map Diagnostic.location =
      [some ⟨"<patterns>", 3, 1, 0⟩, some ⟨"<patterns>", 5, 1, 0⟩] ∧
    Compilation.Joins (Text.lines upperText.toList).length (compile (Transliterator.avoiding "bad") {} upperText)
      (compile (Transliterator.avoiding "bad") (compile (Transliterator.avoiding "bad") {} upperText).session lowerText)
      (compile (Transliterator.avoiding "bad") {} (upperText ++ lowerText)) := by
  have ends : Text.EndsLine upperText.toList lowerText.toList := ⟨'\n', rfl, by decide, by decide⟩
  have computed : (compile (Transliterator.avoiding "bad") {} (upperText ++ lowerText)).aborted = none ∧
      (compile (Transliterator.avoiding "bad") {} (upperText ++ lowerText)).compiled = 2 ∧
      (compile (Transliterator.avoiding "bad") {} (upperText ++ lowerText)).report.diagnostics.map Diagnostic.location =
        [some ⟨"<patterns>", 3, 1, 0⟩, some ⟨"<patterns>", 5, 1, 0⟩] := by decide +kernel
  obtain ⟨finished, compiled, places⟩ := computed
  exact ⟨ends, finished, compiled, places, joins_compile _ _ _ _ _ ends finished⟩

end

end Session

end Utterance
