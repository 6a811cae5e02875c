import Utterance.CommandLine.Run
import Utterance.Proofs.Fragments
import Utterance.Proofs.PatternLines
import Utterance.Proofs.StoreLaws
import Utterance.Text.Encoding.Known

/-!
# What the command leaves behind

The command writes only when it has read its pattern file and has added every symbol and every pattern. If something was
wrong before that, it leaves all files as they were and ends with status 1, if it ends with a status; and if it ends
well, its two files hold what a new session comes to with the symbols and then the patterns (`output_run`). Dumping
writes nothing. All of this is apart from what building the parser does, which may touch the places where the parser is
kept.
-/

namespace Utterance
set_option autoImplicit false

/-! ## Sessions that take everything -/

namespace Session

variable [Limits] {transliterate : Transliterator} {session after : Session}

theorem run_of_foldlM {operations : List Operation}
    (done : operations.foldlM (perform transliterate) session = .ok after) :
    session.run transliterate operations = after := by
  induction operations generalizing session with
  | nil =>
    cases done
    rfl
  | cons operation rest ih =>
    rw [List.foldlM_cons, bind_eq_ok_iff] at done
    obtain ⟨next, performed, later⟩ := done
    rw [run_cons, after_of_ok performed]
    exact ih later

/-- A file adds all its patterns if every one of them can be added in its turn. -/
theorem compile_complete_iff {text file : String} :
    ((session.compile transliterate text file).aborted = none ∧
        (session.compile transliterate text file).success = true) ↔
      ∀ trial ∈ session.trials transliterate (patternSources text file),
        ∃ next, trial.outcome transliterate = .ok next := by
  rw [compile_eq]
  set trials := session.trials transliterate (patternSources text file)
  simp only [Compilation.recorded, Compilation.success, Report.hasErrors, Bool.not_not, List.isEmpty_iff, List.nil_append,
    List.findSome?_eq_none_iff]
  constructor
  · rintro ⟨reportable, silent⟩ trial member
    rw [Trial.takeWhile_isReportable reportable, List.filterMap_eq_nil_iff] at silent
    obtain added | ⟨error, refused⟩ := Trial.interruption?_eq_none_iff.1 (reportable trial member)
    · exact added
    · have told := silent trial member
      rw [Trial.report?_of_user refused] at told
      cases told
  · intro added
    have reportable : ∀ trial ∈ trials, trial.interruption? transliterate = none := fun trial member =>
      Trial.interruption?_eq_none_iff.2 (.inl (added trial member))
    refine ⟨reportable, ?_⟩
    rw [Trial.takeWhile_isReportable reportable, List.filterMap_eq_nil_iff]
    intro trial member
    obtain ⟨next, tried⟩ := added trial member
    exact Trial.report?_of_ok tried

/-- The session is then what the patterns come to one after the other. -/
theorem foldlM_compile {text file : String}
    (added : ∀ trial ∈ session.trials transliterate (patternSources text file),
      ∃ next, trial.outcome transliterate = .ok next) :
    ((patternSources text file).map Operation.add).foldlM (perform transliterate) session =
      .ok (session.compile transliterate text file).session := by
  have finished := (compile_complete_iff.2 added).1
  rw [aborted_compile, List.findSome?_eq_none_iff] at finished
  have all : (session.trials transliterate (patternSources text file)).filterMap (Trial.added? transliterate) =
      patternSources text file := by
    have each : ∀ trial ∈ session.trials transliterate (patternSources text file),
        trial.added? transliterate = some trial.source := by
      intro trial member
      obtain ⟨next, tried⟩ := added trial member
      exact Trial.added?_of_ok tried
    rw [List.filterMap_congr each, List.filterMap_eq_map', map_source_trials]
  have folded := @foldlM_added transliterate _ session (patternSources text file)
  rw [all] at folded
  rw [List.foldlM_map, compile_eq, Trial.takeWhile_isReportable finished, Compilation.recorded, map_source_trials]
  exact folded

end Session

namespace CommandLine

variable {σ φ : Type}

/-! ## What the arguments ask for -/

/-- What is done for a symbol. -/
def SymbolSpec.operation (symbol : SymbolSpec) : Operation :=
  .addSymbol (.text symbol.name) (.list (symbol.values.map Scalar.text))

/-- What is done for a specification, if it can be read. -/
def operation? : Option String → Option Operation
  | some spec =>
    match SymbolSpec.parse spec with
    | .ok symbol => some symbol.operation
    | .error _ => none
  | none => none

/-- The specification was given and can be read, its name is a name, and all its values have phones. -/
def IsUsable (spec : Option String) : Prop :=
  ∃ text symbol, spec = some text ∧ SymbolSpec.parse text = .ok symbol ∧ isSymbolName symbol.name = true ∧
    ∀ value ∈ symbol.values, ∃ phones, transliterate value = .ok phones

section

variable [Text.Codecs] [FileSystem φ]

/-- The text of the file at a path, if it is there and can be read in an encoding that was given. -/
def sourceAt? (files : φ) (path : Path) : Option String → Option String
  | some encoding =>
    match FileSystem.isFile files path, FileSystem.readText files path encoding with
    | .ok true, .ok text => some text
    | _, _ => none
  | none => none

theorem sourceAt?_eq_some_iff {files : φ} {path : Path} {given : Option String} {source : String} :
    sourceAt? files path given = some source ↔ ∃ encoding, given = some encoding ∧
      FileSystem.isFile files path = .ok true ∧ FileSystem.readText files path encoding = .ok source := by
  cases given with
  | none => simp [sourceAt?]
  | some encoding =>
    simp only [sourceAt?, Option.some.injEq, exists_eq_left']
    split
    · rename_i text isFile read
      simp [isFile, read]
    · rename_i other
      refine iff_of_false (by simp) ?_
      rintro ⟨isFile, read⟩
      exact other source isFile read

end

namespace Options

variable (options : Options)

/-- The name under which the pattern file is reported. -/
def fileText : String := (Path.ofText options.file).text

/-- What is done for the symbols. -/
def symbolOperations : List Operation := options.symbols.filterMap operation?

/-- The text of the pattern file, if it is there and can be read. -/
def source? [Text.Codecs] [FileSystem φ] (files : φ) : Option String :=
  sourceAt? files (Path.ofText options.file) options.encoding

/-- The trials of the patterns of a text, after the symbols. -/
def trials [Limits] (source : String) : List Trial :=
  Session.trials transliterate (Session.run transliterate {} options.symbolOperations)
    (patternSources source options.fileText)

/-- The pattern file cannot be read, a symbol cannot be added, or a pattern cannot be added in its turn. -/
def IsFaulty [Limits] [Text.Codecs] [FileSystem φ] (files : φ) : Prop :=
  options.source? files = none ∨ (∃ spec ∈ options.symbols, ¬IsUsable spec) ∨
    ∃ source, options.source? files = some source ∧
      ∃ trial ∈ options.trials source, ∃ failure, trial.outcome transliterate = .error failure

end Options

theorem texts?_map_text (words : List String) : (SymbolValues.list (words.map Scalar.text)).texts? = some words := by
  rw [Session.texts?_eq_some_iff]
  refine ⟨_, rfl, ?_⟩
  induction words with
  | nil => rfl
  | cons word rest ih => simp [Scalar.text?, ih]

theorem SymbolSpec.exists_perform_iff [Limits] {session : Session} {symbol : SymbolSpec} :
    (∃ after, session.perform transliterate symbol.operation = .ok after) ↔
      isSymbolName symbol.name = true ∧ ∀ value ∈ symbol.values, ∃ phones, transliterate value = .ok phones := by
  refine Session.exists_addSymbol_iff.trans (and_congr_right fun _ => ?_)
  rw [texts?_map_text]
  simp

/-- A specification that can be read is followed by the others, once its symbol was added. -/
theorem addSymbols_of_parse [Limits] (setup : Setup σ φ) (session : Session) (rest : List (Option String)) {text : String}
    {symbol : SymbolSpec} (parsed : SymbolSpec.parse text = .ok symbol) :
    (addSymbols setup session (some text :: rest)).2 =
      match session.perform transliterate symbol.operation with
      | .ok next => (addSymbols setup next rest).2
      | .error failure => .error (.ofFailure failure) := by
  have does := Session.does_addSymbol transliterate (.text symbol.name) (.list (symbol.values.map Scalar.text))
  cases performed : session.perform transliterate symbol.operation with
  | ok next => simp only [addSymbols, parsed, does.run_of_ok performed]
  | error failure => simp only [addSymbols, parsed, does.run_of_error performed]

/-- All symbols are added if every one of them is usable, and then one after the other. -/
theorem addSymbols_eq_ok_iff [Limits] {setup : Setup σ φ} {session after : Session} {specs : List (Option String)} :
    (addSymbols setup session specs).2 = .ok after ↔ (∀ spec ∈ specs, IsUsable spec) ∧
      (specs.filterMap operation?).foldlM (Session.perform transliterate) session = .ok after := by
  induction specs generalizing session with
  | nil => simp [addSymbols, pure, Except.pure]
  | cons spec rest ih =>
    rw [List.forall_mem_cons]
    cases spec with
    | none =>
      refine iff_of_false (by simp [addSymbols]) ?_
      rintro ⟨⟨⟨_, _, same, _⟩, _⟩, _⟩
      cases same
    | some text =>
      cases parsed : SymbolSpec.parse text with
      | error malformed =>
        refine iff_of_false (by simp [addSymbols, parsed]) ?_
        rintro ⟨⟨⟨_, _, same, read, _⟩, _⟩, _⟩
        cases same
        cases parsed.symm.trans read
      | ok symbol =>
        have known : operation? (some text) = some symbol.operation := by rw [operation?, parsed]
        have usable : IsUsable (some text) ↔ ∃ after, session.perform transliterate symbol.operation = .ok after := by
          rw [SymbolSpec.exists_perform_iff]
          constructor
          · rintro ⟨_, _, same, read, good⟩
            cases same
            cases parsed.symm.trans read
            exact good
          · exact fun good => ⟨text, symbol, rfl, parsed, good⟩
        rw [usable, List.filterMap_cons_some known, List.foldlM_cons, addSymbols_of_parse setup session rest parsed]
        cases session.perform transliterate symbol.operation with
        | error failure =>
          refine iff_of_false (by simp) ?_
          rintro ⟨⟨⟨_, impossible⟩, _⟩, _⟩
          cases impossible
        | ok next =>
          simp only [ih]
          simp [bind, Except.bind]

/-! ## Dumping -/

section Dumping

variable {setup : Setup σ φ} {file : String} {status result : Int} {lines : List (Nat × String)}

@[simp] theorem Outcome.workspace_after (outcome : Outcome σ φ) (stdout stderr : String) :
    (outcome.after stdout stderr).workspace = outcome.workspace := rfl

@[simp] theorem Outcome.ending_after (outcome : Outcome σ φ) (stdout stderr : String) :
    (outcome.after stdout stderr).ending = outcome.ending := rfl

variable [Limits]

theorem workspace_dumpLines : (dumpLines setup file status lines).workspace = setup.workspace := by
  fun_induction dumpLines setup file status lines with
  | case1 => rfl
  | case2 _ _ _ _ _ _ _ _ _ ih => exact ih
  | case3 => rfl
  | case4 => rfl
  | case5 _ _ _ _ _ _ _ _ _ _ ih => exact ih
  | case6 => rfl

/-- Dumping ends with status 1 if a pattern is refused, else with the status it started with. -/
theorem ending_dumpLines (done : (dumpLines setup file status lines).ending = .ok result) :
    ((∃ line ∈ lines, ∃ error, Pattern.parse (lineSource file line) = .error error) ∧ result = 1) ∨
      ((∀ line ∈ lines, ∃ table, Pattern.parse (lineSource file line) = .ok table) ∧ result = status) := by
  fun_induction dumpLines setup file status lines with
  | case1 status =>
    cases done
    exact .inr ⟨fun _ member => absurd member List.not_mem_nil, rfl⟩
  | case2 status number pattern rest source error refused text shown ih =>
    obtain ⟨cause, fails, _⟩ := mapError_eq_error_iff.1 refused
    refine .inl ⟨⟨(number, pattern), List.mem_cons_self .., cause, fails⟩, ?_⟩
    -- from here on the status is 1, whatever the later patterns are
    obtain ⟨_, same⟩ | ⟨_, same⟩ := ih done
    · exact same
    · exact same
  | case3 => cases done
  | case4 => cases done
  | case5 status number pattern rest source table parsed trace text shown ih =>
    obtain ⟨⟨line, later, fails⟩, same⟩ | ⟨all, same⟩ := ih done
    · exact .inl ⟨⟨line, List.mem_cons_of_mem _ later, fails⟩, same⟩
    · exact .inr ⟨List.forall_mem_cons.2 ⟨⟨table, mapError_eq_ok_iff.1 parsed⟩, all⟩, same⟩
  | case6 => cases done

theorem ending_dumpLines_iff {source : String} (done : (dumpLines setup file 0 (patternLines source)).ending = .ok result) :
    (result = 1 ↔ ∃ line ∈ patternSources source file, ∃ error, Pattern.parse line = .error error) ∧
      (result = 0 ∨ result = 1) := by
  simp only [← map_lineSource_patternLines, List.mem_map, exists_exists_and_eq_and]
  obtain ⟨refused, rfl⟩ | ⟨accepted, rfl⟩ := ending_dumpLines done
  · exact ⟨iff_of_true rfl refused, .inr rfl⟩
  · refine ⟨iff_of_false (by decide) ?_, .inl rfl⟩
    rintro ⟨line, member, error, fails⟩
    obtain ⟨table, parsed⟩ := accepted line member
    cases parsed.symm.trans fails

end Dumping

/-! ## Runs that stop -/

/-- The run leaves everything as it was, and its status is 1 if it has one. -/
def Outcome.Stops (workspace : Workspace σ φ) (outcome : Outcome σ φ) : Prop :=
  outcome.workspace = workspace ∧ ∀ status, outcome.ending = .ok status → status = 1

theorem Outcome.Stops.after {workspace : Workspace σ φ} {outcome : Outcome σ φ} (stops : outcome.Stops workspace)
    (stdout stderr : String) : (outcome.after stdout stderr).Stops workspace := by
  rw [Stops, workspace_after, ending_after]
  exact stops

/-- The setup after the parser was built, or was to be built. -/
def Setup.built (setup : Setup σ φ) : Setup σ φ :=
  setup.withFiles (setup.machine.buildParser setup.workspace.files).1

section Stopping

variable {setup : Setup σ φ} {options : Options} {encoding file source : String} {session : Session}

theorem stops_fail (setup : Setup σ φ) (message : String) : (setup.fail message).Stops setup.workspace :=
  ⟨rfl, fun _ same => (Except.ok.inj same).symm⟩

theorem stops_crash (setup : Setup σ φ) (crash : Crash) : (setup.crash crash).Stops setup.workspace :=
  ⟨rfl, fun _ impossible => by cases impossible⟩

variable [Limits] [Text.Codecs] [FileSystem φ]

/-- A file that adds all its patterns goes on to the output. -/
theorem compileSource_of_complete (setup : Setup σ φ) (options : Options) (encoding : String)
    (added : ∀ trial ∈ session.trials transliterate (patternSources source file),
      ∃ next, trial.outcome transliterate = .ok next) :
    ∃ trace, compileSource setup options encoding file source session =
      (produce setup options encoding (session.compile transliterate source file).session).after "" trace := by
  obtain ⟨finished, success⟩ := Session.compile_complete_iff.2 added
  refine ⟨setup.trace (Trace.compile transliterate session source file), ?_⟩
  simp only [compileSource, finished, success, if_true]

theorem stops_compileSource {trial : Trial} {failure : Failure}
    (member : trial ∈ session.trials transliterate (patternSources source file))
    (fails : trial.outcome transliterate = .error failure) :
    (compileSource setup options encoding file source session).Stops setup.workspace := by
  have incomplete : ¬((session.compile transliterate source file).aborted = none ∧
      (session.compile transliterate source file).success = true) := by
    rw [Session.compile_complete_iff]
    intro added
    obtain ⟨next, tried⟩ := added trial member
    cases tried.symm.trans fails
  simp only [compileSource, Outcome.Stops, Outcome.workspace_after, Outcome.ending_after]
  split
  · exact stops_crash setup _
  · rename_i finished
    split
    · rename_i success
      exact absurd ⟨finished, success⟩ incomplete
    · split
      · exact ⟨rfl, fun _ same => (Except.ok.inj same).symm⟩
      · exact stops_crash setup _

/-- Without dumping, a file is compiled after all symbols were added, or nothing is done. -/
theorem runSession_cases (setup : Setup σ φ) (compiles : options.dumpAst = false) :
    (∃ trace session, runSession setup options encoding file source =
        (compileSource setup options encoding file source session).after "" trace ∧
      (∀ spec ∈ options.symbols, IsUsable spec) ∧
      options.symbolOperations.foldlM (Session.perform transliterate) {} = .ok session) ∨
    (runSession setup options encoding file source).Stops setup.workspace := by
  simp only [runSession, compiles, Bool.false_eq_true, if_false]
  split
  · rename_i trace message refused
    exact .inr ((stops_fail setup message).after "" trace)
  · exact .inr ((stops_crash setup (.valueDropped .symbol)).after "" _)
  · exact .inr ((stops_crash setup _).after "" _)
  · rename_i trace session added
    have done := addSymbols_eq_ok_iff.1 (congrArg Prod.snd added)
    exact .inl ⟨trace, session, rfl, done⟩

/-- A file that was read is handled after the parser was built, unless that fails. -/
theorem runSource_cases (setup : Setup σ φ) (options : Options) (encoding file source : String) :
    (∃ fault, (setup.machine.buildParser setup.workspace.files).2 = .error fault ∧
      runSource setup options encoding file source = setup.built.crash (.system fault)) ∨
    (setup.machine.buildParser setup.workspace.files).2 = .ok () ∧
      runSource setup options encoding file source = runSession setup.built options encoding file source := by
  unfold runSource Setup.built
  cases setup.machine.buildParser setup.workspace.files with
  | mk files result =>
    cases result with
    | error fault => exact .inl ⟨fault, rfl, rfl⟩
    | ok done => exact .inr ⟨rfl, rfl⟩

/-- The command looks for its pattern file first. -/
theorem runOptions_eq (setup : Setup σ φ) (options : Options) :
    runOptions setup options =
      match FileSystem.isFile setup.workspace.files (Path.ofText options.file) with
      | .error fault => setup.crash (.system fault)
      | .ok false => setup.fail ("file not found: " ++ (Path.ofText options.file).text)
      | .ok true => runFile setup options (Path.ofText options.file) := by
  delta runOptions
  -- with the path as a variable, nothing of it is computed
  generalize Path.ofText options.file = path
  rfl

theorem stops_runFile {path : Path} (isFile : FileSystem.isFile setup.workspace.files path = .ok true)
    (unread : sourceAt? setup.workspace.files path options.encoding = none) :
    (runFile setup options path).Stops setup.workspace := by
  unfold runFile
  split
  · exact stops_crash setup _
  · rename_i encoding known
    split
    · rename_i source read
      have found := sourceAt?_eq_some_iff.2 ⟨encoding, known, isFile, read⟩
      cases unread.symm.trans found
    · exact stops_crash setup _
    · exact stops_fail setup _

theorem stops_runOptions (setup : Setup σ φ) (unread : options.source? setup.workspace.files = none) :
    (runOptions setup options).Stops setup.workspace := by
  rw [runOptions_eq]
  split
  · exact stops_crash setup _
  · exact stops_fail setup _
  · rename_i isFile
    exact stops_runFile isFile unread

theorem runFile_of_source {path : Path} (known : options.encoding = some encoding)
    (read : FileSystem.readText setup.workspace.files path encoding = .ok source) :
    runFile setup options path = runSource setup options encoding path.text source := by
  rw [runFile, known]
  simp only [read]

theorem runOptions_of_source (found : options.source? setup.workspace.files = some source) :
    ∃ encoding, options.encoding = some encoding ∧
      runOptions setup options = runSource setup options encoding options.fileText source := by
  obtain ⟨encoding, known, isFile, read⟩ := sourceAt?_eq_some_iff.1 found
  refine ⟨encoding, known, ?_⟩
  rw [runOptions_eq, isFile]
  exact runFile_of_source known read

/-- A file that is dumped is only read, and the status tells whether a pattern was refused. -/
theorem runOptions_of_dumpAst (setup : Setup σ φ) (dumped : options.dumpAst = true)
    (read : options.source? setup.workspace.files = some source) :
    (runOptions setup options).workspace = setup.built.workspace ∧
      ∀ status, (runOptions setup options).ending = .ok status →
        (status = 1 ↔ ∃ line ∈ patternSources source options.fileText, ∃ error, Pattern.parse line = .error error) ∧
          (status = 0 ∨ status = 1) := by
  obtain ⟨encoding, _, reads⟩ := runOptions_of_source read
  rw [reads]
  obtain ⟨fault, _, crashes⟩ | ⟨_, runs⟩ := runSource_cases setup options encoding options.fileText source
  · rw [crashes]
    exact ⟨rfl, fun _ impossible => by cases impossible⟩
  · rw [runs, runSession, dumped, if_pos rfl]
    exact ⟨workspace_dumpLines, fun status done => ending_dumpLines_iff done⟩

/-- Without dumping, the command stops at anything that is wrong, before or after it has built the parser. -/
theorem stops_of_isFaulty (setup : Setup σ φ) (compiles : options.dumpAst = false)
    (faulty : options.IsFaulty setup.workspace.files) :
    (runOptions setup options).Stops setup.workspace ∨ (runOptions setup options).Stops setup.built.workspace := by
  cases known : options.source? setup.workspace.files with
  | none => exact .inl (stops_runOptions setup known)
  | some source =>
    obtain ⟨encoding, _, reads⟩ := runOptions_of_source known
    rw [reads]
    obtain ⟨fault, _, crashes⟩ | ⟨_, runs⟩ := runSource_cases setup options encoding options.fileText source
    · rw [crashes]
      exact .inr (stops_crash setup.built _)
    · rw [runs]
      obtain ⟨trace, session, goesOn, usable, folded⟩ | stops := runSession_cases setup.built compiles
      · rw [goesOn]
        obtain unread | ⟨spec, given, unusable⟩ | ⟨text, read, trial, member, failure, fails⟩ := faulty
        · cases known.symm.trans unread
        · exact absurd (usable spec given) unusable
        · cases known.symm.trans read
          rw [Options.trials, Session.run_of_foldlM folded] at member
          exact .inr ((stops_compileSource member fails).after "" trace)
      · exact .inr stops

/-- A run that ends well has found nothing wrong and has built the parser. -/
theorem runOptions_of_ok (compiles : options.dumpAst = false) (done : (runOptions setup options).ending = .ok 0) :
    ∃ encoding source trace, ∃ first : Session, options.encoding = some encoding ∧
      options.source? setup.workspace.files = some source ∧ (∀ spec ∈ options.symbols, IsUsable spec) ∧
      (options.symbolOperations ++ (patternSources source options.fileText).map Operation.add).foldlM
        (Session.perform transliterate) {} = .ok (first.compile transliterate source options.fileText).session ∧
      runOptions setup options = (produce setup.built options encoding
        (first.compile transliterate source options.fileText).session).after "" trace := by
  have sound : ¬options.IsFaulty setup.workspace.files := by
    intro faulty
    obtain stops | stops := stops_of_isFaulty setup compiles faulty <;> cases stops.2 0 done
  cases read : options.source? setup.workspace.files with
  | none => exact absurd (.inl read) sound
  | some source =>
    obtain ⟨encoding, known, reads⟩ := runOptions_of_source read
    obtain ⟨fault, _, crashes⟩ | ⟨_, runs⟩ := runSource_cases setup options encoding options.fileText source
    · rw [reads, crashes] at done
      cases done
    · rw [reads, runs] at done ⊢
      obtain ⟨trace, first, goesOn, usable, folded⟩ | stops := runSession_cases setup.built compiles
      · have added : ∀ trial ∈ first.trials transliterate (patternSources source options.fileText),
            ∃ next, trial.outcome transliterate = .ok next := by
          intro trial member
          cases tried : trial.outcome transliterate with
          | ok next => exact ⟨next, rfl⟩
          | error failure =>
            rw [← Session.run_of_foldlM folded] at member
            exact absurd (.inr (.inr ⟨source, read, trial, member, failure, tried⟩)) sound
        obtain ⟨more, produces⟩ := compileSource_of_complete setup.built options encoding added
        refine ⟨encoding, source, trace ++ more, first, known, rfl, usable, ?_, ?_⟩
        · rw [List.foldlM_append, folded, bind_eq_ok_iff]
          exact ⟨first, rfl, Session.foldlM_compile added⟩
        · rw [goesOn, produces]
          simp [Outcome.after, String.append_assoc]
      · cases stops.2 0 done

end Stopping

/-! ## Runs that write -/

section Writing

variable [FileSystem φ] [FileView φ]

/-- Nothing but the files at some places has changed. -/
def SameOutside (touched : FileSystem.Place φ → Prop) (before after : Workspace σ φ) : Prop :=
  FileView.SameOutside touched before.files after.files ∧ after.tools = before.tools

/-- Building the parser changes at most the files at some places. -/
def Machine.BuildsWithin (machine : Machine σ φ) (touched : FileSystem.Place φ → Prop) : Prop :=
  ∀ files, FileView.SameOutside touched files (machine.buildParser files).1

variable {touched : FileSystem.Place φ → Prop}

theorem sameOutside_built (setup : Setup σ φ) (builds : setup.machine.BuildsWithin touched) :
    SameOutside touched setup.workspace setup.built.workspace :=
  ⟨builds setup.workspace.files, rfl⟩

variable [Text.Codecs]

/-- The two files of the output hold the texts of a session, unless both names lead to one file, and nothing else has
changed outside of some places. -/
def Options.Delivers (options : Options) (touched : FileSystem.Place φ → Prop) (session : Session)
    (before after : Workspace σ φ) : Prop :=
  ∃ output encoding vocabulary grammar, options.output = some output ∧ options.encoding = some encoding ∧
    (Path.ofText output).withExtension ".voca" = .ok vocabulary ∧
    vocabulary.text = (Path.ofText output).text ++ ".voca" ∧
    (Path.ofText output).withExtension ".grammar" = .ok grammar ∧
    grammar.text = (Path.ofText output).text ++ ".grammar" ∧
    (FileView.Apart after.files vocabulary grammar →
      FileView.Holds after.files vocabulary encoding session.vocabulary.text) ∧
    FileView.Holds after.files grammar encoding session.grammar.text ∧
    SameOutside (fun place => touched place ∨ FileView.leads after.files vocabulary = some place ∨
      FileView.leads after.files grammar = some place) before after

theorem delivers_of_produce [LawfulFileSystem φ] {setup : Setup σ φ} {before : Workspace σ φ} {options : Options}
    {encoding : String} {session : Session} {status : Int} (same : SameOutside touched before setup.workspace)
    (known : options.encoding = some encoding) (plain : options.mkdfa = false) (untested : options.test = false)
    (done : (produce setup options encoding session).ending = .ok status) :
    options.Delivers touched session before (produce setup options encoding session).workspace := by
  cases given : options.output with
  | none =>
    simp only [produce, given] at done
    cases done
  | some output =>
    simp only [produce, given, plain, untested, Bool.or_self, Bool.false_eq_true, if_false, writeOutput] at done ⊢
    split at done
    · cases done
    · rename_i files paths written
      obtain ⟨vocabulary, grammar, named, namedToo, holds, holdsToo, wrote⟩ := Toolchain.writeFiles_eq_ok written
      exact ⟨output, encoding, vocabulary, grammar, given, known, named, Path.text_withExtension named, namedToo,
        Path.text_withExtension namedToo, holds, holdsToo, same.1.trans wrote, same.2⟩

end Writing

section

open scoped Workstation

/-- A machine that keeps the parser in a file, and has no tools. -/
def parserKeeper : Machine Runner.Script FileStore where
  runner := .scripted
  buildParser store :=
    (if store.directories.contains ["tmp", "parser"] then store else store.put ["tmp", "parser"] [1], .ok ())

theorem buildsWithin_parserKeeper : parserKeeper.BuildsWithin (· = ["tmp", "parser"]) := by
  intro store
  simp only [parserKeeper]
  split
  · exact .refl _ store
  · rename_i free
    exact FileStore.sameOutside_put (fun _ listed => free (List.contains_iff_mem.2 listed)) [1]

/-- A directory with a pattern file of two lines, the second of which is given. -/
def twoPatterns (second : String) : Workspace Runner.Script FileStore where
  files :=
    { files := [(["home", "words"], ("'ア' <X>\n" ++ second).toUTF8.toList)]
      directories := [["home"]]
      workingDirectory := ["home"] }
  tools := ⟨[], []⟩

end

end CommandLine

end Utterance
