import Utterance.CommandLine.Options
import Utterance.CommandLine.SymbolSpec
import Utterance.CommandLine.Trace
import Utterance.CommandLine.Usage
import Utterance.Phonetic.Kana

/-!
# Running the command

The command (`main`) reads a pattern file, builds the parser, and either dumps the patterns, or adds the given symbols
and the patterns to a session and writes its files, and then runs the tools if that is asked for. No output is written
before every symbol and every pattern was added. What the user got wrong is told on the error output and ends with
status 1; what is left ends the command without a status.
-/

namespace Utterance.CommandLine
set_option autoImplicit false

/-- Why the command ended without a status. -/
inductive Crash where
  | compiling (failure : Failure)
  | toolchain (fault : ToolchainFault)
  /-- the pattern file could not be read, or the parser not be built -/
  | system (fault : SystemFault)
  /-- the value of an option was dropped and is needed -/
  | valueDropped (flag : Flag)
  deriving DecidableEq, Repr, Inhabited

/-- What is said about an option whose value was dropped. -/
def droppedMessage : Flag → String
  | .symbol => "'list' object has no attribute 'partition'"
  | .encoding => "open() argument 'encoding' must be str or None, not list"
  | _ => "expected str, bytes or os.PathLike object, not list"

/-- What is said about it. -/
def Crash.message : Crash → String
  | .compiling failure => failure.message
  | .toolchain fault => fault.message
  | .system fault => fault.message
  | .valueDropped flag => droppedMessage flag

variable {σ φ : Type}

/-- What a run of the command has printed, how it ended and what it left. -/
structure Outcome (σ φ : Type) where
  stdout : String := ""
  stderr : String := ""
  ending : Except Crash Int
  workspace : Workspace σ φ

/-- The outcome with output before it. -/
def Outcome.after (outcome : Outcome σ φ) (stdout stderr : String) : Outcome σ φ :=
  { outcome with stdout := stdout ++ outcome.stdout, stderr := stderr ++ outcome.stderr }

/-- The parts of a machine that a run makes use of, besides its files. -/
structure Machine (σ φ : Type) where
  /-- whatever runs the tools -/
  runner : Runner σ φ
  /-- builds the parser, which is kept in a file from run to run: the files after it, and why it failed if it did -/
  buildParser : φ → φ × Except SystemFault Unit

/-- Everything a run depends on besides its arguments. -/
structure Setup (σ φ : Type) where
  machine : Machine σ φ
  colour : Bool
  verbose : Bool
  workspace : Workspace σ φ

namespace Setup

/-- Ends with a status. -/
def exit (setup : Setup σ φ) (status : Int) : Outcome σ φ :=
  { ending := .ok status, workspace := setup.workspace }

/-- Ends without a status. -/
def crash (setup : Setup σ φ) (crash : Crash) : Outcome σ φ :=
  { ending := .error crash, workspace := setup.workspace }

/-- Ends with status 1 and an error line. -/
def fail (setup : Setup σ φ) (message : String) : Outcome σ φ :=
  { stderr := errorLine message, ending := .ok 1, workspace := setup.workspace }

/-- The setup with other files. -/
def withFiles (setup : Setup σ φ) (files : φ) : Setup σ φ :=
  { setup with workspace := { setup.workspace with files } }

/-- A trace, if the run is verbose. -/
def trace (setup : Setup σ φ) (text : String) : String :=
  if setup.verbose then text else ""

end Setup

/-- The transliterator of the command. -/
def transliterate : Transliterator := .kana

/-- Dumps patterns. The status is 1 if one of them, or one before, was refused. -/
def dumpLines [Limits] (setup : Setup σ φ) (file : String) : (status : Int) → List (Nat × String) → Outcome σ φ
  | status, [] => setup.exit status
  | status, (number, pattern) :: rest =>
    let source : Pattern.Source := ⟨pattern, file, number⟩
    match Session.parse source with
    | .error (.user error) =>
      match error.display with
      | .ok text => (dumpLines setup file 1 rest).after "" (text ++ "\n")
      | .error fault => setup.crash (.compiling (.capacity fault))
    | .error failure => setup.crash (.compiling failure)
    | .ok table =>
      let trace := setup.trace (Trace.parse source)
      match table.dump with
      | .ok text => (dumpLines setup file status rest).after (text ++ "\n") trace
      | .error fault => (setup.crash (.compiling (Failure.ofTable fault))).after "" trace

/-- Why a symbol was not added. -/
inductive SymbolFault where
  | refused (message : String)
  /-- its specification was dropped -/
  | dropped
  /-- adding it failed in a way that is not reported -/
  | failed (failure : Failure)
  deriving DecidableEq, Repr, Inhabited

/-- What becomes of a failure to add a symbol. Errors of the user are reported, and so are numbers that cannot be
written. -/
def SymbolFault.ofFailure (failure : Failure) : SymbolFault :=
  match failure with
  | .user _ | .oversizedNumber => .refused failure.message
  | _ => .failed failure

/-- Adds the symbols of specifications. What they traced, and the session or why one was not added. -/
def addSymbols (setup : Setup σ φ) : Session → List (Option String) → String × Except SymbolFault Session
  | session, [] => ("", .ok session)
  | _, none :: _ => ("", .error .dropped)
  | session, some spec :: rest =>
    match SymbolSpec.parse spec with
    | .error malformed => ("", .error (.refused malformed.message))
    | .ok symbol =>
      let trace := setup.trace (Trace.addSymbol transliterate symbol.name symbol.values)
      let step := Session.Step.addSymbol transliterate (.text symbol.name) (.list (symbol.values.map Scalar.text))
      match step.run session with
      | .error failure _ => (trace, .error (.ofFailure failure))
      | .ok () session =>
        let (more, result) := addSymbols setup session rest
        (trace ++ more, result)

section

variable [Text.Codecs] [FileSystem φ]

/-- Writes the files of a session and prints their names. -/
def writeOutput (setup : Setup σ φ) (toolchain : Toolchain) (session : Session) : Outcome σ φ :=
  match toolchain.writeFiles setup.workspace.files session with
  | (files, .error fault) => (setup.withFiles files).crash (.toolchain fault)
  | (files, .ok paths) =>
    ((setup.withFiles files).exit 0).after (String.join (paths.map fun path => path.text ++ "\n")) ""

/-- Ends after a tool: with its error output if it failed, else with what comes next. -/
def afterTool (workspace : Workspace σ φ) (result : ToolResult) (next : Outcome σ φ) : Outcome σ φ :=
  if result.ok then next.after result.stdout ""
  else { stdout := result.stdout, stderr := result.stderr, ending := .ok 1, workspace }

/-- Says sample sentences. -/
def runSample (setup : Setup σ φ) (toolchain : Toolchain) (workspace : Workspace σ φ) : Outcome σ φ :=
  let trace := setup.trace (Trace.running setup.machine.runner [toolchain.sampleCommand, toolchain.base.text])
  let outcome : Outcome σ φ :=
    match toolchain.sample setup.machine.runner workspace with
    | (workspace, .error fault) => { ending := .error (.toolchain fault), workspace }
    | (workspace, .ok result) => afterTool workspace result { ending := .ok 0, workspace }
  outcome.after "" trace

/-- Writes and compiles the files of a session, and then says sample sentences if that is asked for. -/
def runTools (setup : Setup σ φ) (toolchain : Toolchain) (session : Session) (test : Bool) : Outcome σ φ :=
  let trace := setup.trace (Trace.running setup.machine.runner [toolchain.compileCommand, toolchain.base.text])
  match toolchain.compile setup.machine.runner setup.workspace session with
  | (workspace, .error (.launch fault)) => { stderr := trace, ending := .error (.toolchain (.launch fault)), workspace }
  | (workspace, .error fault) => { ending := .error (.toolchain fault), workspace }
  | (workspace, .ok result) =>
    let next := if test then runSample setup toolchain workspace else { ending := .ok 0, workspace }
    (afterTool workspace result next).after "" (trace ++ setup.trace (Trace.compiledFiles result))

/-- Produces what is asked for from a session. -/
def produce (setup : Setup σ φ) (options : Options) (encoding : String) (session : Session) : Outcome σ φ :=
  match options.output with
  | none => setup.crash (.valueDropped .output)
  | some output =>
    let toolchain : Toolchain := { base := Path.ofText output, encoding }
    if options.mkdfa || options.test then runTools setup toolchain session options.test
    else writeOutput setup toolchain session

/-- Compiles a pattern file into a session and produces what is asked for. -/
def compileSource [Limits] (setup : Setup σ φ) (options : Options) (encoding file source : String)
    (session : Session) : Outcome σ φ :=
  let compilation := session.compile transliterate source file
  let trace := setup.trace (Trace.compile transliterate session source file)
  let outcome : Outcome σ φ :=
    match compilation.aborted with
    | some failure => setup.crash (.compiling failure)
    | none =>
      if compilation.success then produce setup options encoding compilation.session
      else
        match compilation.report.printed setup.colour with
        | .ok text => (setup.exit 1).after "" text
        | .error fault => setup.crash (.compiling (.capacity fault))
  outcome.after "" trace

/-- Dumps the patterns of a file, or adds the symbols and compiles it. -/
def runSession [Limits] (setup : Setup σ φ) (options : Options) (encoding file source : String) : Outcome σ φ :=
  if options.dumpAst then dumpLines setup file 0 (patternLines source)
  else
    match addSymbols setup {} options.symbols with
    | (trace, .error (.refused message)) => (setup.fail message).after "" trace
    | (trace, .error .dropped) => (setup.crash (.valueDropped .symbol)).after "" trace
    | (trace, .error (.failed failure)) => (setup.crash (.compiling failure)).after "" trace
    | (trace, .ok session) => (compileSource setup options encoding file source session).after "" trace

/-- Builds the parser and handles a pattern file that was read. -/
def runSource [Limits] (setup : Setup σ φ) (options : Options) (encoding file source : String) : Outcome σ φ :=
  match setup.machine.buildParser setup.workspace.files with
  | (files, .error fault) => (setup.withFiles files).crash (.system fault)
  | (files, .ok ()) => runSession (setup.withFiles files) options encoding file source

/-- Reads a pattern file and handles it. What the operating system refuses is reported, and so is a file that is no
text. -/
def runFile [Limits] (setup : Setup σ φ) (options : Options) (path : Path) : Outcome σ φ :=
  match options.encoding with
  | none => setup.crash (.valueDropped .encoding)
  | some encoding =>
    match FileSystem.readText setup.workspace.files path encoding with
    | .ok source => runSource setup options encoding path.text source
    | .error (.other kind message) => setup.crash (.system (.other kind message))
    | .error fault => setup.fail ("could not read file: " ++ fault.message)

/-- Runs the command with its options. -/
def runOptions [Limits] (setup : Setup σ φ) (options : Options) : Outcome σ φ :=
  let path := Path.ofText options.file
  match FileSystem.isFile setup.workspace.files path with
  | .error fault => setup.crash (.system fault)
  | .ok false => setup.fail ("file not found: " ++ path.text)
  | .ok true => runFile setup options path

/-- Runs the command (`main`): its arguments are read first, and then it does what they ask for. -/
def run [Limits] (machine : Machine σ φ) (colour : Bool) (workspace : Workspace σ φ) (arguments : List String) :
    Outcome σ φ :=
  match Options.parse arguments with
  | .error .helpWanted => { stdout := help, ending := .ok 0, workspace }
  | .error (.unusable fault) => { stderr := usage ++ errorLine fault.message, ending := .ok 2, workspace }
  | .ok options => runOptions { machine, colour, verbose := options.verbose, workspace } options

end

end Utterance.CommandLine
