import Utterance.Proofs.Interruption
import Utterance.Proofs.Output
import Utterance.Proofs.ToolCalls

/-!
# What the command does not report

`Options.Escapes` lists why the command ends without a status, and `Options.Ends` how else it can end. What belongs to
the patterns and the symbols alone is settled here: dumping ends early exactly at a pattern that can neither be dumped
nor be reported (`crashes_dumpLines_iff`), compiling exactly at one that goes beyond a limit (`exists_aborted_iff`), and
a symbol is not added only for what is reported, or because it was not given (`exists_unusable_of_addSymbols`).
-/

namespace Utterance
set_option autoImplicit false

variable {σ φ : Type}

/-! ## Causes -/

/-- The pattern can neither be dumped nor be reported. -/
inductive Pattern.Source.Undumpable [Limits] (source : Source) : Prop where
  /-- a numeral has more digits than can be converted -/
  | numeral {digits : Nat} (oversized : parse source = .error (.oversizedNumeral digits))
  /-- a group is inside of more others than there is room for -/
  | group (deep : parse source = .error .tooDeep)
  /-- it is refused at a place that cannot be shown -/
  | place {error : PatternError} {fault : CapacityFault} (refused : parse source = .error (.rejected error))
      (unshown : (UserError.pattern error).display = .error fault)

/-- Why the text of a file is not read, in the order in which this is found out. -/
inductive FileSystem.Unread [Text.Codecs] [FileSystem φ] (files : φ) (path : Path) (encoding : String) :
    SystemFault → Prop where
  /-- the name of the encoding contains the null character -/
  | name (improper : '\x00' ∈ encoding.toList) : Unread files path encoding nullName
  | opening {fault : SystemFault} (proper : '\x00' ∉ encoding.toList) (failed : openToRead files path = .error fault) :
      Unread files path encoding fault
  /-- there is no such encoding -/
  | encoding {place : Place φ} {fault : SystemFault} (proper : '\x00' ∉ encoding.toList)
      (opened : openToRead files path = .ok place) (failed : Text.Codecs.find encoding = .error fault) :
      Unread files path encoding fault
  | reading {place : Place φ} {codec : Text.Codec} {fault : SystemFault} (proper : '\x00' ∉ encoding.toList)
      (opened : openToRead files path = .ok place) (known : Text.Codecs.find encoding = .ok codec)
      (failed : read files place = .error fault) : Unread files path encoding fault
  /-- the file is no text in the encoding -/
  | decoding {place : Place φ} {codec : Text.Codec} {bytes : Text.Bytes} {fault : SystemFault}
      (proper : '\x00' ∉ encoding.toList) (opened : openToRead files path = .ok place)
      (known : Text.Codecs.find encoding = .ok codec) (found : read files place = .ok bytes)
      (failed : codec.decode bytes = .error fault) : Unread files path encoding fault

theorem FileSystem.readText_eq_error_iff [Text.Codecs] [FileSystem φ] {files : φ} {path : Path} {encoding : String}
    {fault : SystemFault} : readText files path encoding = .error fault ↔ Unread files path encoding fault := by
  unfold readText
  simp only [Text.hasNull_eq_true_iff]
  constructor
  · intro failed
    split at failed
    · rename_i improper
      cases failed
      exact .name improper
    · rename_i named
      simp only [bind_eq_error_iff] at failed
      obtain unopened | ⟨place, opened, unknown | ⟨codec, known, unread | ⟨bytes, found, undecoded | ⟨text, _, impossible⟩⟩⟩⟩
        := failed
      · exact .opening named unopened
      · exact .encoding named opened unknown
      · exact .reading named opened known unread
      · exact .decoding named opened known found undecoded
      · cases impossible
  · intro unread
    cases unread with
    | name improper => rw [if_pos improper]
    | opening named failed => simp [named, failed, Bind.bind, Except.bind]
    | encoding named opened failed => simp [named, opened, failed, Bind.bind, Except.bind]
    | reading named opened known failed => simp [named, opened, known, failed, Bind.bind, Except.bind]
    | decoding named opened known found failed => simp [named, opened, known, found, failed, Bind.bind, Except.bind]

namespace CommandLine

section Definitions

variable [Limits] [Text.Codecs] [FileSystem φ]

namespace Options

variable (options : Options)

/-- The toolchain for the output, if the values for it were given. -/
def toolchain? : Option Toolchain :=
  match options.output, options.encoding with
  | some output, some encoding => some { base := Path.ofText output, encoding }
  | _, _ => none

/-- The pattern file is read, and then the parser is built and leaves the files in some state. -/
structure Reads (machine : Machine σ φ) (files : φ) (source : String) (built : φ) : Prop where
  read : options.source? files = some source
  parser : machine.buildParser files = (built, .ok ())

/-- Every symbol and every pattern is added, and they come to this session. -/
structure Compiles (machine : Machine σ φ) (files built : φ) (session : Session) : Prop where
  notDumped : options.dumpAst = false
  usable : ∀ spec ∈ options.symbols, IsUsable spec
  added : ∃ source, options.Reads machine files source built ∧
    (options.symbolOperations ++ (patternSources source options.fileText).map Operation.add).foldlM
      (Session.perform transliterate) {} = .ok session

/-- The pattern file cannot be read, or something in it or a symbol is wrong. A file that is dumped has no symbols, and
its patterns have only to be parsed. -/
def Fails (files : φ) : Prop :=
  options.source? files = none ∨
    (options.dumpAst = true ∧ ∃ source, options.source? files = some source ∧
      ∃ line ∈ patternSources source options.fileText, ∃ error, Pattern.parse line = .error error) ∨
    (options.dumpAst = false ∧ options.IsFaulty files)

/-- What a tool answers that the options ask for: the one that compiles, and after it the one that says sentences. -/
inductive Answers (runner : Runner σ φ) (workspace : Workspace σ φ) (session : Session) :
    Except ToolchainFault ToolResult → Prop where
  | compiling {toolchain : Toolchain} (known : options.toolchain? = some toolchain)
      (asked : options.mkdfa = true ∨ options.test = true) (possible : toolchain.CanWrite workspace.files session) :
      Answers runner workspace session (toolchain.compile runner workspace session).2
  | sampling {toolchain : Toolchain} {result : ToolResult} (known : options.toolchain? = some toolchain)
      (asked : options.test = true) (compiled : (toolchain.compile runner workspace session).2 = .ok result)
      (good : result.ok = true) :
      Answers runner workspace session (toolchain.sample runner (toolchain.compile runner workspace session).1).2

/-- Why the command ends without a status. -/
inductive Escapes (machine : Machine σ φ) (workspace : Workspace σ φ) : Prop where
  /-- it cannot be said whether the pattern file is there -/
  | path {fault : SystemFault} (failed : FileSystem.isFile workspace.files (Path.ofText options.file) = .error fault)
  /-- the pattern file is there, and its encoding was not given -/
  | encoding (there : FileSystem.isFile workspace.files (Path.ofText options.file) = .ok true)
      (missing : options.encoding = none)
  /-- the pattern file is there, and is not read for another reason than that the operating system refuses or that it is
  no text in its encoding -/
  | reading {name kind message : String} (there : FileSystem.isFile workspace.files (Path.ofText options.file) = .ok true)
      (given : options.encoding = some name)
      (unread : FileSystem.Unread workspace.files (Path.ofText options.file) name (.other kind message))
  /-- the parser cannot be built -/
  | parser {source : String} {left : φ} {fault : SystemFault} (read : options.source? workspace.files = some source)
      (failed : machine.buildParser workspace.files = (left, .error fault))
  /-- a pattern can neither be dumped nor be reported -/
  | dump {source : String} {built : φ} {line : Pattern.Source} (dumped : options.dumpAst = true)
      (reads : options.Reads machine workspace.files source built)
      (listed : line ∈ patternSources source options.fileText) (undumpable : line.Undumpable)
  /-- the first symbol that is not usable was not given -/
  | symbol {source : String} {built : φ} {before after : List (Option String)} (notDumped : options.dumpAst = false)
      (reads : options.Reads machine workspace.files source built) (split : options.symbols = before ++ none :: after)
      (usable : ∀ spec ∈ before, IsUsable spec)
  /-- a pattern goes beyond a limit -/
  | limit {source : String} {built : φ} {trial : Trial} {failure : Failure} (notDumped : options.dumpAst = false)
      (reads : options.Reads machine workspace.files source built) (usable : ∀ spec ∈ options.symbols, IsUsable spec)
      (tried : trial ∈ options.trials source) (failed : trial.outcome transliterate = .error failure)
      (exceeds : trial.source.Exceeds transliterate trial.session.nextNumber failure)
  /-- a pattern is refused at a place that cannot be shown -/
  | report {source : String} {built : φ} {trial : Trial} {diagnostic : Diagnostic} {fault : CapacityFault}
      (notDumped : options.dumpAst = false) (reads : options.Reads machine workspace.files source built)
      (usable : ∀ spec ∈ options.symbols, IsUsable spec) (tried : trial ∈ options.trials source)
      (reported : trial.report? transliterate = some diagnostic)
      (unshown : diagnostic.layoutFault? [⟨options.fileText, source, 1⟩] = some fault)
  /-- the base name of the output was not given -/
  | output {session : Session} {built : φ} (compiles : options.Compiles machine workspace.files built session)
      (missing : options.output = none)
  /-- a file of the output cannot be written -/
  | write {session : Session} {built : φ} {toolchain : Toolchain}
      (compiles : options.Compiles machine workspace.files built session) (known : options.toolchain? = some toolchain)
      (impossible : ¬toolchain.CanWrite built session)
  /-- a tool cannot be started -/
  | launch {session : Session} {built : φ} {fault : ToolchainFault}
      (compiles : options.Compiles machine workspace.files built session)
      (answer : options.Answers machine.runner { workspace with files := built } session (.error fault))

/-- How a run with the options ends. -/
inductive Ends (machine : Machine σ φ) (workspace : Workspace σ φ) (outcome : Outcome σ φ) : Prop where
  | well (sound : ¬options.Fails workspace.files) (done : outcome.ending = .ok 0)
  /-- something is wrong with the input, and this is told -/
  | told (fails : options.Fails workspace.files) (done : outcome.ending = .ok 1) (told : outcome.stderr ≠ "")
  /-- a tool fails, and what it tells is told -/
  | tool {session : Session} {built : φ} {result : ToolResult} {before : String}
      (compiles : options.Compiles machine workspace.files built session)
      (answer : options.Answers machine.runner { workspace with files := built } session (.ok result))
      (failed : result.ok = false) (done : outcome.ending = .ok 1) (told : outcome.stderr = before ++ result.stderr)
  | escaped {crash : Crash} (escapes : options.Escapes machine workspace) (crashed : outcome.ending = .error crash)

end Options

end Definitions

/-! ## Dumping -/

section Dumping

variable [Limits] {setup : Setup σ φ} {file : String} {status : Int} {lines : List (Nat × String)} {line : Pattern.Source}

theorem undumpable_of_parse {failure : Failure} (failed : Session.parse line = .error failure)
    (other : ∀ error, failure ≠ .user error) : line.Undumpable := by
  obtain ⟨cause, refused, rfl⟩ := mapError_eq_error_iff.1 failed
  cases cause with
  | rejected error => exact absurd rfl (other (.pattern error))
  | oversizedNumeral digits => exact .numeral refused
  | tooDeep => exact .group refused
  | build fault => exact absurd refused (Pattern.parse_ne_build line fault)

theorem undumpable_iff_of_user {error : UserError} (failed : Session.parse line = .error (.user error)) :
    line.Undumpable ↔ ∃ fault, error.display = .error fault := by
  obtain ⟨cause, refused, same⟩ := mapError_eq_error_iff.1 failed
  cases cause with
  | rejected details =>
    cases same
    constructor
    · rintro (oversized | deep | ⟨refusedToo, unshown⟩)
      · cases refused.symm.trans oversized
      · cases refused.symm.trans deep
      · cases refused.symm.trans refusedToo
        exact ⟨_, unshown⟩
    · exact fun ⟨fault, unshown⟩ => .place refused unshown
  | oversizedNumeral digits => cases same
  | tooDeep => cases same
  | build fault => cases same

theorem not_undumpable_of_parse {table : NodeTable} (parsed : Session.parse line = .ok table) : ¬line.Undumpable := by
  have accepted := mapError_eq_ok_iff.1 parsed
  rintro (oversized | deep | ⟨refused, _⟩)
  · cases accepted.symm.trans oversized
  · cases accepted.symm.trans deep
  · cases accepted.symm.trans refused

/-- Every pattern that is parsed has a dump. -/
theorem exists_dump_of_parse {table : NodeTable} (parsed : Session.parse line = .ok table) :
    ∃ text, table.dump = .ok text := by
  obtain ⟨forms, formed⟩ := Chain.exists_forms (Pattern.isKnown_of_parse (mapError_eq_ok_iff.1 parsed))
  rw [NodeTable.dump_eq_form, Chain.form, formed]
  exact ⟨_, rfl⟩

/-- Dumping ends without a status at a pattern that can neither be dumped nor be reported. -/
theorem crashes_dumpLines_iff : (∃ crash, (dumpLines setup file status lines).ending = .error crash) ↔
    ∃ line ∈ lines, (lineSource file line).Undumpable := by
  fun_induction dumpLines setup file status lines with
  | case1 status => simp [Setup.exit]
  | case2 status number pattern rest source error refused text shown ih =>
    have fine : ¬(lineSource file (number, pattern)).Undumpable := by
      intro bad
      obtain ⟨fault, unshown⟩ := (undumpable_iff_of_user refused).1 bad
      cases shown.symm.trans unshown
    rw [Outcome.ending_after, ih, List.exists_mem_cons_iff, or_iff_right fine]
  | case3 status number pattern rest source error refused fault unshown =>
    have bad : (lineSource file (number, pattern)).Undumpable := (undumpable_iff_of_user refused).2 ⟨fault, unshown⟩
    exact iff_of_true ⟨_, rfl⟩ ⟨(number, pattern), List.mem_cons_self .., bad⟩
  | case4 status number pattern rest source failure other refused =>
    have bad : (lineSource file (number, pattern)).Undumpable :=
      undumpable_of_parse refused fun error same => other error same
    exact iff_of_true ⟨_, rfl⟩ ⟨(number, pattern), List.mem_cons_self .., bad⟩
  | case5 status number pattern rest source table parsed trace text shown ih =>
    have fine : ¬(lineSource file (number, pattern)).Undumpable := not_undumpable_of_parse parsed
    rw [Outcome.ending_after, ih, List.exists_mem_cons_iff, or_iff_right fine]
  | case6 status number pattern rest source table parsed trace fault failed =>
    obtain ⟨text, shown⟩ := exists_dump_of_parse parsed
    cases failed.symm.trans shown

/-- A pattern that is refused is told on the error output. -/
theorem stderr_dumpLines_ne_empty {result : Int} (done : (dumpLines setup file status lines).ending = .ok result)
    (refused : ∃ line ∈ lines, ∃ error, Pattern.parse (lineSource file line) = .error error) :
    (dumpLines setup file status lines).stderr ≠ "" := by
  fun_induction dumpLines setup file status lines with
  | case1 status =>
    obtain ⟨line, member, _⟩ := refused
    exact absurd member List.not_mem_nil
  | case2 status number pattern rest source error failed text shown ih =>
    intro empty
    have message := (String.append_eq_empty_iff.1 empty).1
    exact absurd (String.append_eq_empty_iff.1 message).2 (by decide)
  | case3 => cases done
  | case4 => cases done
  | case5 status number pattern rest source table parsed trace text shown ih =>
    intro empty
    obtain ⟨line, member, error, failed⟩ := refused
    obtain rfl | later := List.mem_cons.1 member
    · cases (mapError_eq_ok_iff.1 parsed).symm.trans failed
    · exact ih done ⟨line, later, error, failed⟩ (String.append_eq_empty_iff.1 empty).2
  | case6 => cases done

end Dumping

theorem exists_line_iff {source file : String} {p : Pattern.Source → Prop} :
    (∃ line ∈ patternLines source, p (lineSource file line)) ↔ ∃ line ∈ patternSources source file, p line := by
  rw [← map_lineSource_patternLines]
  simp only [List.mem_map, exists_exists_and_eq_and]

/-! ## Compiling -/

section Compiling

variable [Limits] {session : Session} {source file : String}

/-- A file ends early exactly if one of its patterns goes beyond a limit. -/
theorem exists_aborted_iff : (∃ failure, (session.compile transliterate source file).aborted = some failure) ↔
    ∃ trial ∈ session.trials transliterate (patternSources source file), ∃ failure,
      trial.outcome transliterate = .error failure ∧
        trial.source.Exceeds transliterate trial.session.nextNumber failure := by
  simp only [← Trial.interruption?_eq_some_iff_exceeds, Session.aborted_compile, ← Option.isSome_iff_exists,
    List.findSome?_isSome_iff]

theorem report_compile (finished : (session.compile transliterate source file).aborted = none) :
    (session.compile transliterate source file).report = { sources := [⟨file, source, 1⟩], diagnostics :=
      (session.trials transliterate (patternSources source file)).filterMap (Trial.report? transliterate) } := by
  rw [Session.aborted_compile, List.findSome?_eq_none_iff] at finished
  rw [Session.compile_eq, Trial.takeWhile_isReportable finished]
  rfl

end Compiling

/-! ## Symbols -/

section Symbols

variable {setup : Setup σ φ} {session : Session}

/-- The transliterator of the command fails for nothing but characters. -/
theorem exists_user_of_entries {values : List String} {failure : Failure}
    (failed : Session.entries transliterate (values.map Scalar.text) = .error failure) :
    ∃ error, failure = .user error := by
  induction values with
  | nil => cases failed
  | cons value rest ih =>
    rw [List.map_cons, Session.entries, bind_eq_error_iff] at failed
    obtain unspoken | ⟨first, _, later⟩ := failed
    · simp only [Session.entry, Scalar.text?] at unspoken
      split at unspoken
      · cases unspoken
      · rename_i fault refused
        obtain ⟨error, _, rfl⟩ := mapError_eq_error_iff.1 refused
        cases unspoken
        exact ⟨_, rfl⟩
    · rw [bind_eq_error_iff] at later
      obtain wrong | ⟨_, _, impossible⟩ := later
      · exact ih wrong
      · cases impossible

/-- A symbol of the command is not added only for errors of the user. -/
theorem exists_refused_of_addSymbol {symbol : SymbolSpec} {failure : Failure}
    (failed : session.addSymbol transliterate (.text symbol.name) (.list (symbol.values.map Scalar.text)) =
      .error failure) : ∃ message, SymbolFault.ofFailure failure = .refused message := by
  have user : ∃ error, failure = .user error := by
    rw [Session.addSymbol_eq, bind_eq_error_iff] at failed
    obtain unmade | ⟨_, _, impossible⟩ := failed
    · simp only [Session.symbolSection] at unmade
      split at unmade
      · simp only [bind_eq_error_iff] at unmade
        obtain scattered | ⟨members, collected, wrong | ⟨_, _, impossible⟩⟩ := unmade
        · cases scattered
        · cases collected
          exact exists_user_of_entries wrong
        · cases impossible
      · cases unmade
        exact ⟨_, rfl⟩
    · cases impossible
  obtain ⟨error, rfl⟩ := user
  exact ⟨_, rfl⟩

variable [Limits]

/-- Symbols are not added for the first one that is not usable, which is reported unless it was not given. -/
theorem exists_unusable_of_addSymbols {specs : List (Option String)} {fault : SymbolFault}
    (failed : (addSymbols setup session specs).2 = .error fault) :
    ∃ before spec after, specs = before ++ spec :: after ∧ (∀ earlier ∈ before, IsUsable earlier) ∧ ¬IsUsable spec ∧
      (fault = .dropped ∧ spec = none ∨ ∃ message, fault = .refused message) := by
  induction specs generalizing session with
  | nil => cases failed
  | cons spec rest ih =>
    have first : ∀ earlier ∈ ([] : List (Option String)), IsUsable earlier := fun _ member => absurd member List.not_mem_nil
    cases spec with
    | none =>
      cases failed
      refine ⟨[], none, rest, rfl, first, ?_, .inl ⟨rfl, rfl⟩⟩
      rintro ⟨text, _, same, _⟩
      cases same
    | some text =>
      cases parsed : SymbolSpec.parse text with
      | error malformed =>
        simp only [addSymbols, parsed] at failed
        cases failed
        refine ⟨[], some text, rest, rfl, first, ?_, .inr ⟨_, rfl⟩⟩
        rintro ⟨_, symbol, same, read, _⟩
        cases same
        cases parsed.symm.trans read
      | ok symbol =>
        rw [addSymbols_of_parse setup session rest parsed] at failed
        cases performed : session.perform transliterate symbol.operation with
        | error failure =>
          rw [performed] at failed
          cases failed
          refine ⟨[], some text, rest, rfl, first, ?_, .inr (exists_refused_of_addSymbol performed)⟩
          rintro ⟨_, _, same, read, good⟩
          cases same
          cases parsed.symm.trans read
          obtain ⟨next, done⟩ := (@SymbolSpec.exists_perform_iff _ session symbol).2 good
          cases performed.symm.trans done
        | ok next =>
          rw [performed] at failed
          obtain ⟨before, spec, after, rfl, usable, unusable, told⟩ := ih failed
          have good := SymbolSpec.exists_perform_iff.1 ⟨next, performed⟩
          refine ⟨some text :: before, spec, after, rfl, ?_, unusable, told⟩
          exact List.forall_mem_cons.2 ⟨⟨text, symbol, rfl, parsed, good⟩, usable⟩

theorem addSymbols_of_dropped {before after : List (Option String)} (usable : ∀ spec ∈ before, IsUsable spec) :
    (addSymbols setup session (before ++ none :: after)).2 = .error .dropped := by
  induction before generalizing session with
  | nil => rfl
  | cons spec rest ih =>
    rw [List.forall_mem_cons] at usable
    obtain ⟨⟨text, symbol, rfl, parsed, good⟩, later⟩ := usable
    obtain ⟨next, done⟩ := (@SymbolSpec.exists_perform_iff _ session symbol).2 good
    rw [List.cons_append, addSymbols_of_parse setup session _ parsed, done]
    exact ih later

theorem exists_addSymbols_of_usable (setup : Setup σ φ) {options : Options}
    (usable : ∀ spec ∈ options.symbols, IsUsable spec) :
    ∃ session, (addSymbols setup {} options.symbols).2 = .ok session ∧
      options.symbolOperations.foldlM (Session.perform transliterate) {} = .ok session := by
  cases symbols : (addSymbols setup {} options.symbols).2 with
  | ok session => exact ⟨session, rfl, (addSymbols_eq_ok_iff.1 symbols).2⟩
  | error fault =>
    obtain ⟨before, spec, after, split, _, unusable, _⟩ := exists_unusable_of_addSymbols symbols
    rw [split] at usable
    exact absurd (usable spec (List.mem_append_right _ (List.mem_cons_self ..))) unusable

end Symbols

end CommandLine

end Utterance
