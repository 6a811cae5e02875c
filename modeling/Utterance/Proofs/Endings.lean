import Utterance.Proofs.Escapes

/-!
# How the command ends

What goes wrong before the output is written ends the command with status 1 and is told on the error output, and so does
a tool that fails. Not so what `Options.Escapes` lists: an encoding that nobody knows, a pattern that goes beyond a
limit, a file that cannot be written or a tool that cannot be started, and some others, end the command without a
status. Nothing else does (`ending_run`), whatever the machine is like.
-/

namespace Utterance
set_option autoImplicit false

variable {σ φ : Type}

/-- Patterns that are all added are added in each of their trials. -/
theorem Session.exists_outcome_of_foldlM [Limits] {transliterate : Transliterator} {session after : Session}
    {sources : List Pattern.Source}
    (added : (sources.map Operation.add).foldlM (perform transliterate) session = .ok after) :
    ∀ trial ∈ session.trials transliterate sources, ∃ next, trial.outcome transliterate = .ok next := by
  induction sources generalizing session with
  | nil => exact fun _ member => absurd member List.not_mem_nil
  | cons source rest ih =>
    rw [List.map_cons, List.foldlM_cons, bind_eq_ok_iff] at added
    obtain ⟨next, done, later⟩ := added
    rw [trials, List.forall_mem_cons, after_of_ok done]
    exact ⟨⟨next, done⟩, ih later⟩

/-- A report cannot be printed exactly if the place of one of its diagnostics cannot be shown. -/
theorem Report.exists_printed_error_iff [Limits] {report : Report} {colour : Bool} :
    (∃ fault, report.printed colour = .error fault) ↔
      ∃ diagnostic ∈ report.diagnostics, ∃ fault, diagnostic.layoutFault? report.sources = some fault := by
  simp only [← Option.isSome_iff_exists, ← List.findSome?_isSome_iff]
  unfold printed
  split
  · simp only [map_eq_error_iff, print]
    split <;> simp_all
  · rename_i silent
    have empty : report.diagnostics = [] := by simpa [hasErrors] using silent
    simp [empty]

theorem Report.printed_ne_empty [Limits] {report : Report} {colour : Bool} {text : String}
    (errors : report.hasErrors = true) (printed : report.printed colour = .ok text) : text ≠ "" := by
  rw [Report.printed, if_pos errors, map_eq_ok_iff] at printed
  obtain ⟨body, _, rfl⟩ := printed
  intro empty
  exact absurd (String.append_eq_empty_iff.1 empty).2 (by decide)

namespace CommandLine

theorem Outcome.after_after (outcome : Outcome σ φ) (first second : String) :
    (outcome.after "" second).after "" first = outcome.after "" (first ++ second) := by
  simp only [Outcome.after, String.empty_append, String.append_assoc]

theorem errorLine_ne_empty (message : String) : errorLine message ≠ "" := by
  intro empty
  simp only [errorLine, String.append_eq_empty_iff] at empty
  exact absurd empty (by simp)

section Endings

variable [Limits] [Text.Codecs] [FileSystem φ] {machine : Machine σ φ} {workspace : Workspace σ φ} {setup : Setup σ φ}
  {options : Options} {encoding file source : String} {session : Session} {before built : φ}

/-- More output before it does not change how a run ends. -/
theorem Options.Ends.after {outcome : Outcome σ φ} (ends : options.Ends machine workspace outcome)
    (stdout stderr : String) : options.Ends machine workspace (outcome.after stdout stderr) := by
  cases ends with
  | well sound done => exact .well sound done
  | told fails done told =>
    refine .told fails done fun empty => told ?_
    exact (String.append_eq_empty_iff.1 empty).2
  | @tool session built result before compiles answer failed done told =>
    have longer : (outcome.after stdout stderr).stderr = stderr ++ before ++ result.stderr := by
      rw [Outcome.after, told, String.append_assoc]
    exact .tool compiles answer failed done longer
  | escaped escapes crashed => exact .escaped escapes crashed

theorem ends_fail (fails : options.Fails workspace.files) (setup : Setup σ φ) (message : String) :
    options.Ends machine workspace (setup.fail message) :=
  .told fails rfl (errorLine_ne_empty message)

theorem ends_crash (escapes : options.Escapes machine workspace) (setup : Setup σ φ) (crash : Crash) :
    options.Ends machine workspace (setup.crash crash) :=
  .escaped escapes rfl

/-! ## Sessions that were built -/

theorem runSession_of_fault {fault : SymbolFault} (notDumped : options.dumpAst = false)
    (symbols : (addSymbols setup {} options.symbols).2 = .error fault) :
    runSession setup options encoding file source =
      (match fault with
        | .refused message => setup.fail message
        | .dropped => setup.crash (.valueDropped .symbol)
        | .failed failure => setup.crash (.compiling failure)).after "" (addSymbols setup {} options.symbols).1 := by
  rw [runSession, notDumped]
  cases done : addSymbols setup {} options.symbols with
  | mk trace result =>
    rw [done] at symbols
    cases symbols
    cases fault <;> rfl

theorem runSession_of_symbols (notDumped : options.dumpAst = false)
    (symbols : (addSymbols setup {} options.symbols).2 = .ok session) :
    runSession setup options encoding file source =
      (compileSource setup options encoding file source session).after "" (addSymbols setup {} options.symbols).1 := by
  rw [runSession, notDumped]
  cases done : addSymbols setup {} options.symbols with
  | mk trace result =>
    rw [done] at symbols
    cases symbols
    rfl

theorem runOptions_of_reads (reads : options.Reads setup.machine setup.workspace.files source built) :
    ∃ encoding, options.encoding = some encoding ∧
      runOptions setup options = runSession (setup.withFiles built) options encoding options.fileText source := by
  obtain ⟨encoding, known, runs⟩ := runOptions_of_source reads.read
  refine ⟨encoding, known, ?_⟩
  rw [runs, runSource, reads.parser]

theorem Options.Compiles.sound {files : φ} (compiles : options.Compiles machine files built session) :
    ¬options.Fails files := by
  obtain ⟨notDumped, usable, source, ⟨read, _⟩, added⟩ := compiles
  rw [List.foldlM_append, bind_eq_ok_iff] at added
  obtain ⟨first, folded, others⟩ := added
  rintro (unread | ⟨dumped, _⟩ | ⟨_, unread | ⟨spec, given, unusable⟩ | ⟨text, readToo, trial, tried, failure, failed⟩⟩)
  · cases read.symm.trans unread
  · cases notDumped.symm.trans dumped
  · cases read.symm.trans unread
  · exact unusable (usable spec given)
  · cases read.symm.trans readToo
    rw [Options.trials, Session.run_of_foldlM folded] at tried
    obtain ⟨next, done⟩ := Session.exists_outcome_of_foldlM others trial tried
    cases done.symm.trans failed

/-- What is left to do for a session that was built is the output. -/
theorem runOptions_of_compiles (compiles : options.Compiles setup.machine setup.workspace.files built session) :
    ∃ encoding trace, options.encoding = some encoding ∧
      runOptions setup options = (produce (setup.withFiles built) options encoding session).after "" trace := by
  obtain ⟨notDumped, usable, source, reads, added⟩ := compiles
  rw [List.foldlM_append, bind_eq_ok_iff] at added
  obtain ⟨first, folded, others⟩ := added
  obtain ⟨encoding, known, runs⟩ := runOptions_of_reads reads
  have symbols : (addSymbols (setup.withFiles built) {} options.symbols).2 = .ok first :=
    addSymbols_eq_ok_iff.2 ⟨usable, folded⟩
  have all := Session.exists_outcome_of_foldlM others
  obtain ⟨trace, produces⟩ := compileSource_of_complete (setup.withFiles built) options encoding all
  have same : (first.compile transliterate source options.fileText).session = session :=
    Except.ok.inj ((Session.foldlM_compile all).symm.trans others)
  refine ⟨encoding, (addSymbols (setup.withFiles built) {} options.symbols).1 ++ trace, known, ?_⟩
  rw [runs, runSession_of_symbols notDumped symbols, produces, same, Outcome.after_after]

/-! ## The output -/

omit [Limits] [Text.Codecs] [FileSystem φ] in
theorem Options.toolchain?_eq_some {output : String} (given : options.output = some output)
    (known : options.encoding = some encoding) :
    options.toolchain? = some { base := Path.ofText output, encoding } := by
  rw [toolchain?, given, known]

omit [Limits] [Text.Codecs] [FileSystem φ] in
theorem Options.exists_output_of_toolchain? {toolchain : Toolchain} (known : options.encoding = some encoding)
    (named : options.toolchain? = some toolchain) :
    ∃ output, options.output = some output ∧ toolchain = { base := Path.ofText output, encoding } := by
  cases given : options.output with
  | none =>
    rw [toolchain?, given] at named
    cases named
  | some output =>
    have same := named.symm.trans (toolchain?_eq_some given known)
    exact ⟨output, rfl, Option.some.inj same⟩

omit [Limits] in
/-- Tools that are not reached do not give a status. -/
theorem crashes_runTools {toolchain : Toolchain} {fault : ToolchainFault}
    (failed : (toolchain.compile setup.machine.runner setup.workspace session).2 = .error fault) (test : Bool) :
    ∃ crash, (runTools setup toolchain session test).ending = .error crash := by
  unfold runTools
  split
  · exact ⟨_, rfl⟩
  · exact ⟨_, rfl⟩
  · rename_i workspace result compiled
    rw [compiled] at failed
    cases failed

section Produced

variable {toolchain : Toolchain} (compiles : options.Compiles setup.machine before setup.workspace.files session)
  (known : options.toolchain? = some toolchain)

include compiles known

theorem ends_writeOutput (normal : toolchain.base.IsNormal) :
    options.Ends setup.machine (setup.withFiles before).workspace (writeOutput setup toolchain session) := by
  unfold writeOutput
  split
  · rename_i files fault failed
    refine .escaped (.write compiles known fun possible => ?_) rfl
    obtain ⟨_, _, written⟩ := (Toolchain.exists_writeFiles_iff normal).2 possible
    cases failed.symm.trans written
  · exact .well compiles.sound rfl

theorem ends_runSample {result : ToolResult} (asked : options.test = true)
    (compiled : (toolchain.compile setup.machine.runner setup.workspace session).2 = .ok result)
    (good : result.ok = true) :
    options.Ends setup.machine (setup.withFiles before).workspace (runSample setup toolchain
      (toolchain.compile setup.machine.runner setup.workspace session).1) := by
  have answer := Options.Answers.sampling known asked compiled good
  refine Options.Ends.after ?_ "" _
  split
  · rename_i workspace fault said
    rw [said] at answer
    exact .escaped (.launch compiles answer) rfl
  · rename_i workspace spoken said
    rw [said] at answer
    unfold afterTool
    split
    · exact .well compiles.sound rfl
    · rename_i failed
      exact .tool compiles answer (Bool.eq_false_of_not_eq_true failed) rfl (String.empty_append).symm

theorem ends_runTools (normal : toolchain.base.IsNormal) (asked : options.mkdfa = true ∨ options.test = true) :
    options.Ends setup.machine (setup.withFiles before).workspace (runTools setup toolchain session options.test) := by
  obtain ⟨possible, _⟩ | ⟨impossible, left, fault, failed⟩ :=
    Toolchain.compile_cases normal setup.machine.runner setup.workspace session
  · have answer : options.Answers setup.machine.runner setup.workspace session _ := .compiling known asked possible
    unfold runTools
    split
    · rename_i workspace fault failed
      rw [failed] at answer
      exact .escaped (.launch compiles answer) rfl
    · rename_i workspace fault _ failed
      rw [failed] at answer
      exact .escaped (.launch compiles answer) rfl
    · rename_i workspace result compiled
      refine Options.Ends.after ?_ "" _
      unfold afterTool
      split
      · rename_i good
        refine Options.Ends.after ?_ _ ""
        split
        · rename_i test
          have samples := ends_runSample compiles known test (congrArg Prod.snd compiled) good
          rw [compiled] at samples
          exact samples
        · exact .well compiles.sound rfl
      · rename_i bad
        rw [compiled] at answer
        exact .tool compiles answer (Bool.eq_false_of_not_eq_true bad) rfl (String.empty_append).symm
  · obtain ⟨crash, crashed⟩ := crashes_runTools (congrArg Prod.snd failed) options.test
    exact .escaped (.write compiles known impossible) crashed

end Produced

theorem ends_produce (compiles : options.Compiles setup.machine before setup.workspace.files session)
    (known : options.encoding = some encoding) :
    options.Ends setup.machine (setup.withFiles before).workspace (produce setup options encoding session) := by
  unfold produce
  split
  · rename_i missing
    exact ends_crash (.output compiles missing) _ _
  · rename_i output given
    have named := Options.toolchain?_eq_some given known
    have normal := Path.isNormal_ofText output
    split
    · rename_i asked
      exact ends_runTools compiles named normal (Bool.or_eq_true_iff.1 asked)
    · exact ends_writeOutput compiles named normal

/-! ## Dumping and compiling -/

theorem ends_dumpLines (dumped : options.dumpAst = true)
    (reads : options.Reads setup.machine before source setup.workspace.files) :
    options.Ends setup.machine (setup.withFiles before).workspace
      (dumpLines setup options.fileText 0 (patternLines source)) := by
  cases ended : (dumpLines setup options.fileText 0 (patternLines source)).ending with
  | error crash =>
    obtain ⟨line, listed, bad⟩ := exists_line_iff.1 (crashes_dumpLines_iff.1 ⟨crash, ended⟩)
    exact .escaped (.dump dumped reads listed bad) ended
  | ok status =>
    obtain ⟨refused, rfl⟩ | ⟨accepted, rfl⟩ := ending_dumpLines ended
    · have told := stderr_dumpLines_ne_empty ended refused
      exact .told (.inr (.inl ⟨dumped, source, reads.read, exists_line_iff.1 refused⟩)) ended told
    · refine .well ?_ ended
      rintro (unread | ⟨_, text, readToo, wrong⟩ | ⟨notDumped, _⟩)
      · cases reads.read.symm.trans unread
      · cases reads.read.symm.trans readToo
        obtain ⟨line, listed, error, failed⟩ := exists_line_iff.2 wrong
        obtain ⟨table, parsed⟩ := accepted line listed
        cases parsed.symm.trans failed
      · cases dumped.symm.trans notDumped

theorem ends_compileSource (notDumped : options.dumpAst = false)
    (reads : options.Reads setup.machine before source setup.workspace.files) (known : options.encoding = some encoding)
    (usable : ∀ spec ∈ options.symbols, IsUsable spec)
    (folded : options.symbolOperations.foldlM (Session.perform transliterate) {} = .ok session) :
    options.Ends setup.machine (setup.withFiles before).workspace
      (compileSource setup options encoding options.fileText source session) := by
  have trials : options.trials source = session.trials transliterate (patternSources source options.fileText) := by
    rw [Options.trials, Session.run_of_foldlM folded]
  refine Options.Ends.after ?_ "" _
  split
  · rename_i failure aborted
    obtain ⟨trial, tried, cause, failed, exceeds⟩ := exists_aborted_iff.1 ⟨failure, aborted⟩
    rw [← trials] at tried
    exact ends_crash (.limit notDumped reads usable tried failed exceeds) _ _
  · rename_i finished
    split
    · rename_i success
      have added := Session.compile_complete_iff.1 ⟨finished, success⟩
      refine ends_produce ⟨notDumped, usable, source, reads, ?_⟩ known
      rw [List.foldlM_append, folded, bind_eq_ok_iff]
      exact ⟨session, rfl, Session.foldlM_compile added⟩
    · rename_i failure
      have report := report_compile finished
      split
      · rename_i text printed
        have errors : (session.compile transliterate source options.fileText).report.hasErrors = true := by
          simpa [Compilation.success] using failure
        have told : text ≠ "" := Report.printed_ne_empty errors printed
        refine .told (.inr (.inr ⟨notDumped, .inr (.inr ⟨source, reads.read, ?_⟩)⟩)) rfl ?_
        · have incomplete : ¬∀ trial ∈ options.trials source, ∃ next, trial.outcome transliterate = .ok next := by
            rw [trials]
            exact fun added => failure (Session.compile_complete_iff.2 added).2
          push Not at incomplete
          obtain ⟨trial, tried, stuck⟩ := incomplete
          cases ended : trial.outcome transliterate with
          | ok next => exact absurd ended (stuck next)
          | error cause => exact ⟨trial, tried, cause, ended⟩
        · intro empty
          exact told (String.append_eq_empty_iff.1 empty).1
      · rename_i fault printed
        obtain ⟨diagnostic, listed, cause, unshown⟩ := Report.exists_printed_error_iff.1 ⟨fault, printed⟩
        rw [report] at listed unshown
        obtain ⟨trial, tried, reported⟩ := List.mem_filterMap.1 listed
        rw [← trials] at tried
        exact ends_crash (.report notDumped reads usable tried reported unshown) _ _

theorem ends_runSession (reads : options.Reads setup.machine before source setup.workspace.files)
    (known : options.encoding = some encoding) :
    options.Ends setup.machine (setup.withFiles before).workspace
      (runSession setup options encoding options.fileText source) := by
  cases dumped : options.dumpAst with
  | true =>
    rw [runSession, dumped, if_pos rfl]
    exact ends_dumpLines dumped reads
  | false =>
    cases symbols : (addSymbols setup {} options.symbols).2 with
    | ok session =>
      obtain ⟨usable, folded⟩ := addSymbols_eq_ok_iff.1 symbols
      rw [runSession_of_symbols dumped symbols]
      exact (ends_compileSource dumped reads known usable folded).after "" _
    | error fault =>
      obtain ⟨earlier, spec, later, split, usable, unusable, ⟨rfl, rfl⟩ | ⟨message, rfl⟩⟩ :=
        exists_unusable_of_addSymbols symbols
      · rw [runSession_of_fault dumped symbols]
        exact (ends_crash (.symbol dumped reads split usable) _ _).after "" _
      · have given : spec ∈ options.symbols := by
          rw [split]
          exact List.mem_append_right _ (List.mem_cons_self ..)
        rw [runSession_of_fault dumped symbols]
        exact (ends_fail (.inr (.inr ⟨dumped, .inr (.inl ⟨spec, given, unusable⟩)⟩)) setup message).after "" _

/-! ## Reading -/

theorem ends_runSource (read : options.source? setup.workspace.files = some source)
    (known : options.encoding = some encoding) :
    options.Ends setup.machine setup.workspace (runSource setup options encoding options.fileText source) := by
  unfold runSource
  split
  · rename_i left fault failed
    exact ends_crash (.parser read failed) _ _
  · rename_i built parser
    exact @ends_runSession _ _ _ _ _ (setup.withFiles built) _ _ _ setup.workspace.files ⟨read, parser⟩ known

theorem ends_runFile (there : FileSystem.isFile setup.workspace.files (Path.ofText options.file) = .ok true)
    (unread : options.source? setup.workspace.files = none) :
    options.Ends setup.machine setup.workspace (runFile setup options (Path.ofText options.file)) := by
  unfold runFile
  split
  · rename_i missing
    exact ends_crash (.encoding there missing) _ _
  · rename_i encoding given
    split
    · rename_i source read
      have found := sourceAt?_eq_some_iff.2 ⟨encoding, given, there, read⟩
      cases unread.symm.trans found
    · rename_i kind message failed
      exact ends_crash (.reading there given (FileSystem.readText_eq_error_iff.1 failed)) _ _
    · exact ends_fail (.inl unread) _ _

theorem ends_runOptions (setup : Setup σ φ) (options : Options) :
    options.Ends setup.machine setup.workspace (runOptions setup options) := by
  cases read : options.source? setup.workspace.files with
  | some source =>
    obtain ⟨encoding, known, runs⟩ := runOptions_of_source read
    rw [runs]
    exact ends_runSource read known
  | none =>
    rw [runOptions_eq]
    split
    · rename_i fault failed
      exact ends_crash (.path failed) _ _
    · exact ends_fail (.inl read) _ _
    · rename_i there
      exact ends_runFile there read

/-! ## Every cause is one -/

/-- Compiling ends without a status at a pattern that goes beyond a limit, or else if a report cannot be shown. -/
theorem crashes_compileSource {trial : Trial} (tried : trial ∈ session.trials transliterate (patternSources source file))
    (bad : (∃ failure, trial.outcome transliterate = .error failure ∧
        trial.source.Exceeds transliterate trial.session.nextNumber failure) ∨
      ∃ diagnostic fault, trial.report? transliterate = some diagnostic ∧
        diagnostic.layoutFault? [⟨file, source, 1⟩] = some fault) :
    ∃ crash, (compileSource setup options encoding file source session).ending = .error crash := by
  simp only [compileSource, Outcome.ending_after]
  split
  · exact ⟨_, rfl⟩
  · rename_i finished
    obtain limit | ⟨diagnostic, fault, reported, unshown⟩ := bad
    · obtain ⟨failure, aborted⟩ := exists_aborted_iff.2 ⟨trial, tried, limit⟩
      cases finished.symm.trans aborted
    · have report := report_compile finished
      have listed : diagnostic ∈ (session.compile transliterate source file).report.diagnostics := by
        rw [report]
        exact List.mem_filterMap.2 ⟨trial, tried, reported⟩
      have failure : (session.compile transliterate source file).success = false := by
        simp only [Compilation.success, Report.hasErrors, Bool.not_not]
        exact List.isEmpty_eq_false_iff.2 (List.ne_nil_of_mem listed)
      have sources : (session.compile transliterate source file).report.sources = [⟨file, source, 1⟩] := by rw [report]
      rw [← sources] at unshown
      obtain ⟨cause, printed⟩ : ∃ cause, (session.compile transliterate source file).report.printed setup.colour =
        .error cause := Report.exists_printed_error_iff.2 ⟨diagnostic, listed, fault, unshown⟩
      rw [failure, printed]
      exact ⟨_, rfl⟩

theorem crashes_runSession {trial : Trial} (notDumped : options.dumpAst = false)
    (usable : ∀ spec ∈ options.symbols, IsUsable spec) (tried : trial ∈ options.trials source)
    (bad : (∃ failure, trial.outcome transliterate = .error failure ∧
        trial.source.Exceeds transliterate trial.session.nextNumber failure) ∨
      ∃ diagnostic fault, trial.report? transliterate = some diagnostic ∧
        diagnostic.layoutFault? [⟨options.fileText, source, 1⟩] = some fault) :
    ∃ crash, (runSession setup options encoding options.fileText source).ending = .error crash := by
  obtain ⟨session, symbols, folded⟩ := exists_addSymbols_of_usable setup usable
  rw [Options.trials, Session.run_of_foldlM folded] at tried
  rw [runSession_of_symbols notDumped symbols, Outcome.ending_after]
  exact crashes_compileSource tried bad

omit [Limits] in
/-- Files that cannot be written end the command without a status, whether tools are to be run or not. -/
theorem crashes_produce_of_not_canWrite {toolchain : Toolchain} (known : options.encoding = some encoding)
    (named : options.toolchain? = some toolchain) (impossible : ¬toolchain.CanWrite setup.workspace.files session) :
    ∃ crash, (produce setup options encoding session).ending = .error crash := by
  obtain ⟨output, given, same⟩ := Options.exists_output_of_toolchain? known named
  have normal : toolchain.base.IsNormal := by
    rw [same]
    exact Path.isNormal_ofText output
  simp only [produce, given, ← same]
  split
  · obtain ⟨possible, _⟩ | ⟨_, left, fault, failed⟩ :=
      Toolchain.compile_cases normal setup.machine.runner setup.workspace session
    · exact absurd possible impossible
    · exact crashes_runTools (congrArg Prod.snd failed) options.test
  · unfold writeOutput
    split
    · exact ⟨_, rfl⟩
    · rename_i files paths written
      exact absurd ((Toolchain.exists_writeFiles_iff normal).1 ⟨files, paths, written⟩) impossible

omit [Limits] in
theorem crashes_produce_of_launch {fault : ToolchainFault} (known : options.encoding = some encoding)
    (answer : options.Answers setup.machine.runner setup.workspace session (.error fault)) :
    ∃ crash, (produce setup options encoding session).ending = .error crash := by
  generalize failed : Except.error fault = result at answer
  cases answer with
  | compiling named asked possible =>
    obtain ⟨output, given, rfl⟩ := Options.exists_output_of_toolchain? known named
    simp only [produce, given, Bool.or_eq_true_iff.2 asked, if_true]
    exact crashes_runTools failed.symm options.test
  | @sampling toolchain result named asked compiled good =>
    obtain ⟨output, given, rfl⟩ := Options.exists_output_of_toolchain? known named
    simp only [produce, given, asked, Bool.or_true, if_true]
    unfold runTools
    split
    · rename_i stuck
      rw [stuck] at compiled
      cases compiled
    · rename_i stuck
      rw [stuck] at compiled
      cases compiled
    · rename_i workspace answer done
      rw [done] at compiled failed
      cases compiled
      simp only [afterTool, good, if_true, Outcome.ending_after, runSample]
      split
      · exact ⟨_, rfl⟩
      · rename_i said
        rw [said] at failed
        cases failed

theorem crashes_of_escapes (escapes : options.Escapes setup.machine setup.workspace) :
    ∃ crash, (runOptions setup options).ending = .error crash := by
  cases escapes with
  | path failed =>
    rw [runOptions_eq, failed]
    exact ⟨_, rfl⟩
  | encoding there missing =>
    rw [runOptions_eq, there]
    simp only [runFile, missing]
    exact ⟨_, rfl⟩
  | reading there given unread =>
    rw [runOptions_eq, there]
    simp only [runFile, given, FileSystem.readText_eq_error_iff.2 unread]
    exact ⟨_, rfl⟩
  | parser read failed =>
    obtain ⟨encoding, _, runs⟩ := runOptions_of_source read
    rw [runs, runSource, failed]
    exact ⟨_, rfl⟩
  | dump dumped reads listed undumpable =>
    obtain ⟨encoding, _, runs⟩ := runOptions_of_reads reads
    rw [runs, runSession, dumped, if_pos rfl]
    exact crashes_dumpLines_iff.2 (exists_line_iff.2 ⟨_, listed, undumpable⟩)
  | @symbol source built before after notDumped reads split usable =>
    obtain ⟨encoding, _, runs⟩ := runOptions_of_reads reads
    have dropped : (addSymbols (setup.withFiles built) {} options.symbols).2 = .error .dropped := by
      rw [split]
      exact addSymbols_of_dropped usable
    rw [runs, runSession_of_fault notDumped dropped]
    exact ⟨_, rfl⟩
  | limit notDumped reads usable tried failed exceeds =>
    obtain ⟨encoding, _, runs⟩ := runOptions_of_reads reads
    rw [runs]
    exact crashes_runSession notDumped usable tried (.inl ⟨_, failed, exceeds⟩)
  | report notDumped reads usable tried reported unshown =>
    obtain ⟨encoding, _, runs⟩ := runOptions_of_reads reads
    rw [runs]
    exact crashes_runSession notDumped usable tried (.inr ⟨_, _, reported, unshown⟩)
  | output compiles missing =>
    obtain ⟨encoding, trace, _, runs⟩ := runOptions_of_compiles compiles
    rw [runs, Outcome.ending_after, produce, missing]
    exact ⟨_, rfl⟩
  | write compiles named impossible =>
    obtain ⟨encoding, trace, known, runs⟩ := runOptions_of_compiles compiles
    rw [runs, Outcome.ending_after]
    exact crashes_produce_of_not_canWrite known named impossible
  | launch compiles answer =>
    obtain ⟨encoding, trace, known, runs⟩ := runOptions_of_compiles compiles
    rw [runs, Outcome.ending_after]
    exact crashes_produce_of_launch known answer

end Endings

/-- The command ends without a status exactly for the causes that escape. For anything else that is wrong with the input
it ends with status 1 and tells it on the error output. If nothing is wrong it ends with status 0, or with status 1 and
what a tool that failed has told. -/
theorem ending_run [Limits] [Text.Codecs] [FileSystem φ] (machine : Machine σ φ) (colour : Bool)
    (workspace : Workspace σ φ) (arguments : List String) (options : Options)
    (accepted : Options.parse arguments = .ok options) :
    let outcome := run machine colour workspace arguments
    ((∃ crash, outcome.ending = .error crash) ↔ options.Escapes machine workspace) ∧
      (¬options.Escapes machine workspace →
        (options.Fails workspace.files → outcome.ending = .ok 1 ∧ outcome.stderr ≠ "") ∧
        (¬options.Fails workspace.files → outcome.ending = .ok 0 ∨
          outcome.ending = .ok 1 ∧ ∃ session built result before,
            options.Compiles machine workspace.files built session ∧
            options.Answers machine.runner { workspace with files := built } session (.ok result) ∧
            result.ok = false ∧ outcome.stderr = before ++ result.stderr)) := by
  intro outcome
  set setup : Setup σ φ := { machine, colour, verbose := options.verbose, workspace }
  have runs : outcome = runOptions setup options := by
    simp only [outcome, run, accepted]
    rfl
  have ends : options.Ends machine workspace outcome := by
    rw [runs]
    exact ends_runOptions setup options
  have crashes (escapes : options.Escapes machine workspace) : ∃ crash, outcome.ending = .error crash := by
    rw [runs]
    exact crashes_of_escapes escapes
  cases ends with
  | well sound done =>
    refine ⟨⟨?_, crashes⟩, fun _ => ⟨fun fails => absurd fails sound, fun _ => .inl done⟩⟩
    rintro ⟨crash, crashed⟩
    cases done.symm.trans crashed
  | told fails done told =>
    refine ⟨⟨?_, crashes⟩, fun _ => ⟨fun _ => ⟨done, told⟩, fun sound => absurd fails sound⟩⟩
    rintro ⟨crash, crashed⟩
    cases done.symm.trans crashed
  | tool compiles answer failed done told =>
    refine ⟨⟨?_, crashes⟩, fun _ => ⟨fun fails => absurd fails compiles.sound, fun _ => .inr ⟨done, ?_⟩⟩⟩
    · rintro ⟨crash, crashed⟩
      cases done.symm.trans crashed
    · exact ⟨_, _, _, _, compiles, answer, failed, told⟩
  | escaped escapes crashed => exact ⟨iff_of_true ⟨_, crashed⟩ escapes, fun sound => absurd escapes sound⟩

section

open scoped Workstation

/-- A directory with a pattern file. -/
def patternWorkspace (text : String) : Workspace Runner.Script FileStore where
  files :=
    { files := [(["home", "words"], text.toUTF8.toList)]
      directories := [["home"]]
      workingDirectory := ["home"] }
  tools := ⟨[], []⟩

/-- A file that cannot be decoded is told with status 1; one that cannot be written is not. -/
theorem ending_run_unwritten :
    let undecoded : Options := { file := "words", encoding := some "ascii" }
    let unwritten : Options := { file := "words", output := some "missing/out" }
    let workspace := patternWorkspace "'ア'\n"
    Options.parse ["words", "--encoding", "ascii"] = .ok undecoded ∧
      ¬undecoded.Escapes parserKeeper workspace ∧ undecoded.Fails workspace.files ∧
      (run parserKeeper false workspace ["words", "--encoding", "ascii"]).ending = .ok 1 ∧
      (run parserKeeper false workspace ["words", "--encoding", "ascii"]).stderr ≠ "" ∧
      Options.parse ["words", "-o", "missing/out"] = .ok unwritten ∧ unwritten.Escapes parserKeeper workspace := by
  intro undecoded unwritten workspace
  have accepted : Options.parse ["words", "--encoding", "ascii"] = .ok undecoded := by decide +kernel
  have acceptedToo : Options.parse ["words", "-o", "missing/out"] = .ok unwritten := by decide +kernel
  have done : (run parserKeeper false workspace ["words", "--encoding", "ascii"]).ending = .ok 1 := by decide +kernel
  have crashed : (run parserKeeper false workspace ["words", "-o", "missing/out"]).ending =
      .error (.toolchain (.file (AccessFault.notFound.naming "missing/out.voca"))) := by decide +kernel
  have fails : undecoded.Fails workspace.files := .inl (by decide +kernel)
  obtain ⟨status, sound⟩ := ending_run parserKeeper false workspace _ undecoded accepted
  have reported : ¬undecoded.Escapes parserKeeper workspace := by
    intro escapes
    obtain ⟨crash, impossible⟩ := status.2 escapes
    cases done.symm.trans impossible
  have told := ((sound reported).1 fails).2
  have escapes := (ending_run parserKeeper false workspace _ unwritten acceptedToo).1.1 ⟨_, crashed⟩
  exact ⟨accepted, reported, fails, done, told, acceptedToo, escapes⟩

/-- An encoding that nobody knows, a directory that is missing and a value that cannot be encoded leave the command
without a status, and nothing is told. -/
theorem run_without_status :
    let workspace := patternWorkspace "<X>\n"
    let unknown := ["words", "--encoding", "nope"]
    let missing := ["words", "-o", "missing/out"]
    let unencoded := ["words", "--encoding", "ascii", "--symbol", "X=ア"]
    ((Options.parse unknown).isOk = true ∧ (run parserKeeper false workspace unknown).ending =
        .error (.system (.other "unknown encoding" "unknown encoding: nope")) ∧
        (run parserKeeper false workspace unknown).stderr = "") ∧
      ((Options.parse missing).isOk = true ∧ (run parserKeeper false workspace missing).ending =
        .error (.toolchain (.file (AccessFault.notFound.naming "missing/out.voca"))) ∧
        (run parserKeeper false workspace missing).stderr = "") ∧
      (Options.parse unencoded).isOk = true ∧ (run parserKeeper false workspace unencoded).ending.isOk = false ∧
        (run parserKeeper false workspace unencoded).stderr = "" := by
  decide +kernel

end

end CommandLine

end Utterance
