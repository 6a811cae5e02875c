import Utterance.Proofs.Accepted
import Utterance.Proofs.Journal

/-!
# Pattern files line by line

A pattern file tries its lines one after the other, each on the session that the lines before it made. If no line ends
the file early, each of them is either added or reported: the session is what the added lines make on their own, and the
reports are those of the others, in their order (`accounts_compile`).
-/

namespace Utterance
set_option autoImplicit false

/-- A pattern and the session that it is tried on. -/
structure Trial where
  session : Session
  source : Pattern.Source

namespace Trial

/-- The session with the pattern added, or why there is none. -/
def outcome [Limits] (transliterate : Transliterator) (trial : Trial) : Except Failure Session :=
  trial.session.add transliterate trial.source

/-- The pattern, if it was added. -/
def added? [Limits] (transliterate : Transliterator) (trial : Trial) : Option Pattern.Source :=
  match trial.outcome transliterate with
  | .ok _ => some trial.source
  | .error _ => none

/-- The pattern and what is wrong with it, if it was not added. -/
def refused? [Limits] (transliterate : Transliterator) (trial : Trial) : Option (Pattern.Source × Failure) :=
  match trial.outcome transliterate with
  | .ok _ => none
  | .error failure => some (trial.source, failure)

/-- What a pattern file reports of the trial. -/
def report? [Limits] (transliterate : Transliterator) (trial : Trial) : Option Diagnostic :=
  match trial.outcome transliterate with
  | .error (.user error) => some (error.diagnostic (some ⟨trial.source.file, trial.source.line, 1, 0⟩))
  | _ => none

/-- The failure that ends a pattern file: one that is not about what the user wrote. -/
def interruption? [Limits] (transliterate : Transliterator) (trial : Trial) : Option Failure :=
  match trial.outcome transliterate with
  | .ok _ => none
  | .error (.user _) => none
  | .error failure => some failure

/-- Whether the file goes on after the trial. -/
def isReportable [Limits] (transliterate : Transliterator) (trial : Trial) : Bool :=
  (trial.interruption? transliterate).isNone

end Trial

/-- The trials of patterns one after the other; one that is not added leaves the session as it was. -/
def Session.trials [Limits] (transliterate : Transliterator) : Session → List Pattern.Source → List Trial
  | _, [] => []
  | session, source :: rest => ⟨session, source⟩ :: (session.after transliterate (.add source)).trials transliterate rest

/-- The patterns of a text: its lines are numbered from 1, and those that are blank or comments are left out. -/
def patternSources (text file : String) : List Pattern.Source :=
  (((Text.lines text.toList).zipIdx 1).filter fun line => isPatternLine line.1).map
    fun line => ⟨String.ofList line.1, file, line.2⟩

/-- The diagnostic tells an error, at the place of the error in the line or at the start of the line. -/
structure Diagnostic.Reports (diagnostic : Diagnostic) (source : Pattern.Source) (error : UserError) : Prop where
  message : diagnostic.message = error.message
  code : diagnostic.code = some error.code
  help : diagnostic.help = error.help
  label : diagnostic.label = error.label
  place : ∃ place, diagnostic.location = some place ∧ place.file = source.file ∧ place.line = source.line ∧
    place.column = (error.location.map Location.column).getD 1

/-- The compilation adds or reports each of the patterns, which are tried one after the other. -/
structure Compilation.Accounts [Limits] (transliterate : Transliterator) (session : Session) (sources : List Pattern.Source)
    (compilation : Compilation) : Prop where
  /-- the patterns that were added make the same session on their own -/
  committed : ((session.trials transliterate sources).filterMap (Trial.added? transliterate)).foldlM
    (Session.add transliterate) session = .ok compilation.session
  /-- each of the others is reported, with what was wrong with it -/
  reported : List.Forall₂ (fun refused diagnostic => ∃ error, refused.2 = .user error ∧ diagnostic.Reports refused.1 error)
    ((session.trials transliterate sources).filterMap (Trial.refused? transliterate)) compilation.report.diagnostics
  /-- the reports are in the order of the lines -/
  ordered : (compilation.report.diagnostics.filterMap fun diagnostic => diagnostic.location.map Location.line).Pairwise
    (· < ·)
  /-- no pattern is lost, and none counted twice -/
  counted : compilation.compiled + compilation.report.diagnostics.length = sources.length
  success : compilation.success = true ↔ compilation.compiled = sources.length

/-! ## The patterns of a text -/

/-- The source that a numbered line is. -/
def lineSource (file : String) (line : Nat × String) : Pattern.Source :=
  ⟨line.2, file, line.1⟩

theorem numberedPatterns_eq (number : Nat) (lines : List (List Char)) : numberedPatterns number lines =
    ((lines.zipIdx number).filter fun line => isPatternLine line.1).map fun line => (line.2, String.ofList line.1) := by
  induction lines generalizing number with
  | nil => rfl
  | cons line rest ih =>
    rw [numberedPatterns, List.zipIdx_cons, List.filter_cons]
    split
    · rw [List.map_cons, ih]
    · exact ih (number + 1)

theorem map_lineSource_patternLines (text file : String) :
    (patternLines text).map (lineSource file) = patternSources text file := by
  rw [patternLines, numberedPatterns_eq, List.map_map]
  rfl

theorem pairwise_patternSources (text file : String) :
    ((patternSources text file).map Pattern.Source.line).Pairwise (· < ·) := by
  have numbers : ((patternSources text file).map Pattern.Source.line).Sublist
      ((((Text.lines text.toList).zipIdx 1).map Prod.snd).map Int.ofNat) := by
    rw [patternSources, List.map_map, List.map_map]
    exact List.filter_sublist.map _
  refine List.Pairwise.sublist numbers ?_
  rw [List.zipIdx_map_snd, List.pairwise_map]
  exact List.Pairwise.imp Int.ofNat_lt.2 List.pairwise_lt_range'

/-! ## Why a pattern is not added -/

variable {transliterate : Transliterator}

namespace Session

variable {session : Session} {source : Pattern.Source}

theorem after_add_of_ok [Limits] {next : Session} (added : session.add transliterate source = .ok next) :
    session.after transliterate (.add source) = next :=
  after_of_ok added

theorem after_add_of_error [Limits] {failure : Failure} (failed : session.add transliterate source = .error failure) :
    session.after transliterate (.add source) = session :=
  after_of_error failed

/-- A pattern that is not added was refused, or something hinders it from being lowered. -/
theorem exists_cause_of_add [Limits] {failure : Failure} (failed : session.add transliterate source = .error failure) :
    (∃ error, source.Refuses error ∧ Failure.ofParse error = failure) ∨
      ∃ table fault, Pattern.parse source = .ok table ∧
        table.chain.Hinders transliterate session.nextNumber fault ∧ Failure.ofLowering fault = failure := by
  simp only [add_eq, parse, bind_eq_error_iff, mapError_eq_error_iff, mapError_eq_ok_iff] at failed
  obtain ⟨error, refused, same⟩ | ⟨table, accepted, ⟨fault, unlowered, same⟩ | ⟨lowered, _, impossible⟩⟩ := failed
  · exact .inl ⟨error, Pattern.refuses_of_parse refused, same⟩
  · rw [NodeTable.lower_eq_sentence] at unlowered
    have hinders := Chain.hinders_of_sentence (Pattern.isKnown_of_parse accepted) unlowered
    exact .inr ⟨table, fault, accepted, hinders, same⟩
  · cases impossible

/-- The place of an error is in the line of the pattern. -/
theorem holds_of_add [Limits] {error : UserError} (failed : session.add transliterate source = .error (.user error)) :
    ∀ place ∈ error.location, source.Holds place := by
  obtain ⟨cause, refuses, same⟩ | ⟨table, fault, _, hinders, same⟩ := exists_cause_of_add failed
  · cases refuses with
    | fault inside =>
      cases same
      rintro place ⟨⟩
      exact inside
    | numeral listed long => cases same
    | group deep => cases same
  · cases hinders with
    | @literal text fault listed refused =>
      cases fault with
      | unpronounceable details =>
        cases same
        rintro place ⟨⟩
      | other reason => cases same
    | repetition listed exceeds => cases same
    | number listed unwritable => cases same

theorem reports_of_add [Limits] {error : UserError} (failed : session.add transliterate source = .error (.user error)) :
    (error.diagnostic (some ⟨source.file, source.line, 1, 0⟩)).Reports source error := by
  refine ⟨rfl, rfl, rfl, rfl, ?_⟩
  have inside := holds_of_add failed
  rw [UserError.diagnostic]
  cases known : error.location with
  | none => exact ⟨_, rfl, rfl, rfl, rfl⟩
  | some place =>
    obtain ⟨file, line⟩ := inside place known
    exact ⟨place, rfl, file, line, rfl⟩

end Session

/-! ## Trials -/

namespace Trial

section Outcomes

variable {trial : Trial} {next : Session} {failure : Failure} {error : UserError}

theorem added?_of_ok [Limits] (tried : trial.outcome transliterate = .ok next) :
    trial.added? transliterate = some trial.source := by
  rw [added?, tried]

theorem added?_of_error [Limits] (tried : trial.outcome transliterate = .error failure) :
    trial.added? transliterate = none := by
  rw [added?, tried]

theorem refused?_of_ok [Limits] (tried : trial.outcome transliterate = .ok next) : trial.refused? transliterate = none := by
  rw [refused?, tried]

theorem refused?_of_error [Limits] (tried : trial.outcome transliterate = .error failure) :
    trial.refused? transliterate = some (trial.source, failure) := by
  rw [refused?, tried]

theorem report?_of_ok [Limits] (tried : trial.outcome transliterate = .ok next) : trial.report? transliterate = none := by
  rw [report?, tried]

theorem report?_of_user [Limits] (tried : trial.outcome transliterate = .error (.user error)) :
    trial.report? transliterate = some (error.diagnostic (some ⟨trial.source.file, trial.source.line, 1, 0⟩)) := by
  rw [report?, tried]

end Outcomes

theorem interruption?_eq_none_iff [Limits] {trial : Trial} : trial.interruption? transliterate = none ↔
    (∃ next, trial.outcome transliterate = .ok next) ∨ ∃ error, trial.outcome transliterate = .error (.user error) := by
  unfold interruption?
  split
  · rename_i next tried
    simp [tried]
  · rename_i error tried
    simp [tried]
  · rename_i failure other tried
    simpa [tried] using other

theorem interruption?_eq_none_iff_forall [Limits] {trial : Trial} : trial.interruption? transliterate = none ↔
    ∀ failure, trial.outcome transliterate = .error failure → ∃ error, failure = .user error := by
  rw [interruption?_eq_none_iff]
  cases trial.outcome transliterate <;> simp

theorem interruption?_eq_some_iff [Limits] {trial : Trial} {failure : Failure} :
    trial.interruption? transliterate = some failure ↔
      trial.outcome transliterate = .error failure ∧ ∀ error, failure ≠ .user error := by
  unfold interruption?
  cases trial.outcome transliterate with
  | ok next => simp
  | error cause =>
    cases cause with
    | user error =>
      refine iff_of_false (by simp) ?_
      rintro ⟨same, other⟩
      exact other error (Except.error.inj same).symm
    | _ =>
      simp only [Option.some.injEq, Except.error.injEq]
      refine (and_iff_left_of_imp ?_).symm
      rintro rfl error impossible
      cases impossible

variable {trials : List Trial}

theorem takeWhile_isReportable [Limits] (reportable : ∀ trial ∈ trials, trial.interruption? transliterate = none) :
    trials.takeWhile (isReportable transliterate) = trials := by
  rw [List.takeWhile_eq_self_iff]
  intro trial member
  rw [isReportable, reportable trial member]
  rfl

/-- A trial is counted once. -/
theorem length_added_add_length_reports [Limits] (reportable : ∀ trial ∈ trials, trial.interruption? transliterate = none) :
    (trials.filterMap (added? transliterate)).length + (trials.filterMap (report? transliterate)).length =
      trials.length := by
  induction trials with
  | nil => rfl
  | cons trial rest ih =>
    rw [List.forall_mem_cons] at reportable
    have counted := ih reportable.2
    obtain ⟨next, tried⟩ | ⟨error, tried⟩ := interruption?_eq_none_iff.1 reportable.1
    · rw [List.filterMap_cons_some (added?_of_ok tried), List.filterMap_cons_none (report?_of_ok tried), List.length_cons,
        List.length_cons]
      omega
    · rw [List.filterMap_cons_none (added?_of_error tried), List.filterMap_cons_some (report?_of_user tried),
        List.length_cons, List.length_cons]
      omega

theorem forall₂_reports [Limits] (reportable : ∀ trial ∈ trials, trial.interruption? transliterate = none) :
    List.Forall₂ (fun refused diagnostic => ∃ error, refused.2 = .user error ∧ diagnostic.Reports refused.1 error)
      (trials.filterMap (refused? transliterate)) (trials.filterMap (report? transliterate)) := by
  induction trials with
  | nil => exact .nil
  | cons trial rest ih =>
    rw [List.forall_mem_cons] at reportable
    have reported := ih reportable.2
    obtain ⟨next, tried⟩ | ⟨error, tried⟩ := interruption?_eq_none_iff.1 reportable.1
    · rw [List.filterMap_cons_none (refused?_of_ok tried), List.filterMap_cons_none (report?_of_ok tried)]
      exact reported
    · rw [List.filterMap_cons_some (refused?_of_error tried), List.filterMap_cons_some (report?_of_user tried)]
      exact .cons ⟨error, rfl, Session.reports_of_add tried⟩ reported

theorem exists_reports [Limits] {trial : Trial} {diagnostic : Diagnostic}
    (told : trial.report? transliterate = some diagnostic) :
    ∃ error, diagnostic.Reports trial.source error := by
  unfold report? at told
  split at told
  · rename_i error tried
    cases told
    exact ⟨error, Session.reports_of_add tried⟩
  · cases told

/-- The lines of the reports are among those of the patterns, in their order. -/
theorem sublist_lines_reports [Limits] (transliterate : Transliterator) (trials : List Trial) :
    ((trials.filterMap (report? transliterate)).filterMap fun diagnostic => diagnostic.location.map Location.line).Sublist
      (trials.map fun trial => trial.source.line) := by
  induction trials with
  | nil => exact .slnil
  | cons trial rest ih =>
    rw [List.map_cons, List.filterMap_cons]
    cases told : trial.report? transliterate with
    | none => exact ih.cons _
    | some diagnostic =>
      obtain ⟨error, reports⟩ := exists_reports told
      obtain ⟨place, known, _, line, _⟩ := reports.place
      simp only [List.filterMap_cons, known, Option.map_some, line]
      exact ih.cons_cons _

end Trial

namespace Session

theorem map_source_trials [Limits] (transliterate : Transliterator) (session : Session) (sources : List Pattern.Source) :
    (session.trials transliterate sources).map Trial.source = sources := by
  induction sources generalizing session with
  | nil => rfl
  | cons source rest ih => rw [trials, List.map_cons, ih]

/-- The patterns that were added make the session on their own. -/
theorem foldlM_added [Limits] (session : Session) (sources : List Pattern.Source) :
    ((session.trials transliterate sources).filterMap (Trial.added? transliterate)).foldlM (add transliterate) session =
      .ok (session.run transliterate (sources.map .add)) := by
  induction sources generalizing session with
  | nil => rfl
  | cons source rest ih =>
    rw [trials, List.map_cons, run_cons, ← ih]
    cases tried : session.add transliterate source with
    | ok next =>
      have added : Trial.added? transliterate ⟨session, source⟩ = some source := Trial.added?_of_ok tried
      rw [List.filterMap_cons_some added, List.foldlM_cons, tried, after_add_of_ok tried]
      rfl
    | error failure =>
      have refused : Trial.added? transliterate ⟨session, source⟩ = none := Trial.added?_of_error tried
      rw [List.filterMap_cons_none refused, after_add_of_error tried]

end Session

/-! ## The file -/

namespace Compilation

variable {file : String} {compilation : Compilation}

/-- The compilation with trials whose failures can be reported, and what ended the file after them. -/
def recorded [Limits] (transliterate : Transliterator) (compilation : Compilation) (trials : List Trial)
    (aborted : Option Failure) : Compilation where
  session := compilation.session.run transliterate ((trials.map Trial.source).map .add)
  report :=
    { compilation.report with
      diagnostics := compilation.report.diagnostics ++ trials.filterMap (Trial.report? transliterate) }
  compiled := compilation.compiled + (trials.filterMap (Trial.added? transliterate)).length
  aborted := aborted

section Recorded

variable {source : Pattern.Source} {trials : List Trial} {aborted : Option Failure}

theorem recorded_nil [Limits] : compilation.recorded transliterate [] aborted = { compilation with aborted } := by
  simp only [recorded, List.map_nil, List.filterMap_nil, List.append_nil, List.length_nil, Nat.add_zero]
  rfl

theorem recorded_cons_of_ok [Limits] {next : Session} (added : compilation.session.add transliterate source = .ok next) :
    compilation.recorded transliterate (⟨compilation.session, source⟩ :: trials) aborted =
      recorded transliterate { compilation with session := next, compiled := compilation.compiled + 1 } trials aborted := by
  have counted : Trial.added? transliterate ⟨compilation.session, source⟩ = some source := Trial.added?_of_ok added
  have silent : Trial.report? transliterate ⟨compilation.session, source⟩ = none := Trial.report?_of_ok added
  simp only [recorded, List.map_cons, Session.run_cons, Session.after_add_of_ok added, List.filterMap_cons_some counted,
    List.filterMap_cons_none silent, List.length_cons, Nat.add_assoc, Nat.add_comm 1]

theorem recorded_cons_of_user [Limits] {error : UserError}
    (refused : compilation.session.add transliterate source = .error (.user error)) :
    compilation.recorded transliterate (⟨compilation.session, source⟩ :: trials) aborted =
      recorded transliterate
        { compilation with
          report := compilation.report.add (error.diagnostic (some ⟨source.file, source.line, 1, 0⟩)) }
        trials aborted := by
  have uncounted : Trial.added? transliterate ⟨compilation.session, source⟩ = none := Trial.added?_of_error refused
  have told : Trial.report? transliterate ⟨compilation.session, source⟩ =
      some (error.diagnostic (some ⟨source.file, source.line, 1, 0⟩)) := Trial.report?_of_user refused
  simp only [recorded, List.map_cons, Session.run_cons, Session.after_add_of_error refused,
    List.filterMap_cons_none uncounted, List.filterMap_cons_some told, Report.add, List.append_assoc,
    List.singleton_append]

end Recorded

/-- A file records its trials up to the first with a failure that is not reported, and this failure ends it. -/
theorem addLines_eq [Limits] (lines : List (Nat × String)) (going : compilation.aborted = none) :
    compilation.addLines transliterate file lines =
      compilation.recorded transliterate
        ((compilation.session.trials transliterate (lines.map (lineSource file))).takeWhile
          (Trial.isReportable transliterate))
        ((compilation.session.trials transliterate (lines.map (lineSource file))).findSome?
          (Trial.interruption? transliterate)) := by
  induction lines generalizing compilation with
  | nil =>
    refine Eq.trans ?_ recorded_nil.symm
    exact congrArg (Compilation.mk _ _ _) going
  | cons line rest ih =>
    obtain ⟨number, pattern⟩ := line
    rw [List.map_cons, Session.trials, List.takeWhile_cons, List.findSome?_cons, Trial.isReportable]
    cases tried : compilation.session.add transliterate (lineSource file (number, pattern)) with
    | ok next =>
      have goesOn : Trial.interruption? transliterate ⟨compilation.session, lineSource file (number, pattern)⟩ = none :=
        Trial.interruption?_eq_none_iff.2 (.inl ⟨next, tried⟩)
      simp only [goesOn, Option.isNone_none, if_true]
      rw [addLines_of_ok going tried, Session.after_add_of_ok tried, recorded_cons_of_ok tried]
      exact ih going
    | error failure =>
      by_cases user : ∃ error, failure = .user error
      · obtain ⟨error, rfl⟩ := user
        have goesOn : Trial.interruption? transliterate ⟨compilation.session, lineSource file (number, pattern)⟩ = none :=
          Trial.interruption?_eq_none_iff.2 (.inr ⟨error, tried⟩)
        simp only [goesOn, Option.isNone_none, if_true]
        rw [addLines_of_user going tried, Session.after_add_of_error tried, recorded_cons_of_user tried]
        exact ih going
      · have other := not_exists.1 user
        have ends : Trial.interruption? transliterate ⟨compilation.session, lineSource file (number, pattern)⟩ =
            some failure := Trial.interruption?_eq_some_iff.2 ⟨tried, other⟩
        simp only [ends, Option.isNone_some, Bool.false_eq_true, if_false]
        rw [addLines_of_failure tried other, recorded_nil]

end Compilation

namespace Session

/-- What a text comes to. -/
theorem compile_eq [Limits] (transliterate : Transliterator) (session : Session) (text file : String) :
    session.compile transliterate text file =
      Compilation.recorded transliterate { session, report := { sources := [⟨file, text, 1⟩] } }
        ((session.trials transliterate (patternSources text file)).takeWhile (Trial.isReportable transliterate))
        ((session.trials transliterate (patternSources text file)).findSome? (Trial.interruption? transliterate)) := by
  rw [← map_lineSource_patternLines]
  exact Compilation.addLines_eq (patternLines text) rfl

theorem aborted_compile [Limits] (transliterate : Transliterator) (session : Session) (text file : String) :
    (session.compile transliterate text file).aborted =
      (session.trials transliterate (patternSources text file)).findSome? (Trial.interruption? transliterate) := by
  rw [compile_eq]
  rfl

/-- Each pattern of a text is added or reported, if no line ends the file early. -/
theorem accounts_compile [Limits] (transliterate : Transliterator) (session : Session) (text file : String)
    (finished : (session.compile transliterate text file).aborted = none) :
    (session.compile transliterate text file).Accounts transliterate session (patternSources text file) := by
  have reportable : ∀ trial ∈ session.trials transliterate (patternSources text file),
      trial.interruption? transliterate = none := by
    rwa [aborted_compile, List.findSome?_eq_none_iff] at finished
  have all : (session.trials transliterate (patternSources text file)).takeWhile (Trial.isReportable transliterate) =
      session.trials transliterate (patternSources text file) :=
    List.takeWhile_eq_self_iff.2 fun trial member => by rw [Trial.isReportable, reportable trial member]; rfl
  have tried := session.map_source_trials transliterate (patternSources text file)
  have counted := Trial.length_added_add_length_reports reportable
  rw [← List.length_map Trial.source, tried] at counted
  have last : (session.compile transliterate text file).session =
      session.run transliterate ((patternSources text file).map .add) := by
    rw [compile_eq, all, Compilation.recorded, tried]
  have diagnostics : (session.compile transliterate text file).report.diagnostics =
      (session.trials transliterate (patternSources text file)).filterMap (Trial.report? transliterate) := by
    rw [compile_eq, all]
    rfl
  have compiled : (session.compile transliterate text file).compiled =
      ((session.trials transliterate (patternSources text file)).filterMap (Trial.added? transliterate)).length := by
    rw [compile_eq, all]
    exact Nat.zero_add _
  rw [← compiled, ← diagnostics] at counted
  refine ⟨?_, ?_, ?_, counted, ?_⟩
  · rw [last, foldlM_added]
  · rw [diagnostics]
    exact Trial.forall₂_reports reportable
  · have among := Trial.sublist_lines_reports transliterate (session.trials transliterate (patternSources text file))
    have increasing := pairwise_patternSources text file
    rw [← tried, List.map_map] at increasing
    rw [diagnostics]
    exact increasing.sublist among
  · simp only [Compilation.success, Report.hasErrors, Bool.not_not, List.isEmpty_iff, ← List.length_eq_zero_iff]
    omega

/-- Two patterns between a comment, a blank line, a text that is no pattern and a word without phones. -/
def mixedText : String := "# words\n'a'\n\n)\n<b>+\n'bad'\n"

section
open scoped Workstation

theorem accounts_compile_mixed :
    (compile (Transliterator.avoiding "bad") {} mixedText).aborted = none ∧
      (compile (Transliterator.avoiding "bad") {} mixedText).compiled = 2 ∧
      (compile (Transliterator.avoiding "bad") {} mixedText).report.diagnostics.length = 2 ∧
      (compile (Transliterator.avoiding "bad") {} mixedText).Accounts (Transliterator.avoiding "bad") {}
        (patternSources mixedText "<patterns>") := by
  have finished : (compile (Transliterator.avoiding "bad") {} mixedText).aborted = none := by decide +kernel
  exact ⟨finished, by decide +kernel, by decide +kernel, accounts_compile _ _ _ _ finished⟩

end

end Session

end Utterance
