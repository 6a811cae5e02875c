import Utterance.Host.Shell.Builtin
import Utterance.Host.Shell.Redirect

/-!
# Programs

A program does its work by itself, is a shell of its own, or runs another program. A shell reads its script line by
line and runs each line before it reads the next.
-/

namespace Utterance.Host.Shell
set_option autoImplicit false

/-! ## Scripts as texts -/

/-- Runs the lines of a text, at most `fuel` of them. -/
def runLines (engine : Engine) (tested : Bool) : (fuel : Nat) → Reader → ShellM Unit
  | 0, _ => return ()
  | fuel + 1, reader => do
    match readLine { reader with aliases := (← theShell).aliases } with
    | .stop => return ()
    | .faulty fault =>
      modifyShell fun shell => { shell with line := fault.line }
      giveUp fault.text
    | .commands script rest =>
      script.forM (engine.command tested)
      runLines engine tested fuel rest

/-- Runs a text. -/
def runText (engine : Engine) (text : Octets) (tested : Bool := false) : ShellM Unit :=
  runLines engine tested (text.length + 2) { rest := text }

/-- Runs the action for a signal, after which the status is as before. -/
def runAction (engine : Engine) (action : Octets) : ShellM Unit := do
  let status := (← theShell).status
  runText engine action
  setStatus status

/-- Runs something, and then what is to be done at the end of the shell. -/
def withLastAction (engine : Engine) (work : ShellM Unit) : ShellM Unit := do
  let finish (status : Nat) : ShellM Nat := do
    setStatus status
    match (← theShell).traps.lookup 0 with
    | some action =>
      modifyShell fun shell => { shell with traps := shell.traps.filter fun entry => entry.1 != 0 }
      tryCatch
        (do
          runText engine action
          return status)
        fun stop => do
          match stop with
          | .exit status => return status
          | .back status => return status
          | .leave _ => return status
          | .next _ => return status
          | stop => throw stop
    | none => return status
  let status ← tryCatch
    (do
      work
      return (← theShell).status)
    fun stop => do
      match stop with
      | .exit status => return status
      | .back status => return status
      | .leave _ => return 0
      | .next _ => return 0
      | stop => throw stop
  setStatus (← finish status)

/-- Runs something in a subshell with its own last action; its status. -/
def inFullSubshell (engine : Engine) (work : ShellM Unit) : ShellM Nat :=
  inSubshell (withLastAction engine work)

/-! ## Programs -/

/-- The longest time that anything waits, in millionths of a second. -/
def longestTime : Nat := 1000000000

/-- Runs a program that does its work by itself. -/
def runCommand (work : Call → Outcome) (name : Octets) (arguments : List Octets) : ShellM Ending := do
  let machine ← get
  let input ← pending 0
  let rereadable := match (← channelOf 0).bind fun id => machine.channels[id]? with
    | some (.file _ _ _) => true
    | _ => false
  let outcome := work {
    name, arguments, files := machine.files, place := machine.shell.place, input, rereadable,
    environment := environment machine.shell }
  modify fun machine => { machine with files := outcome.files, clock := machine.clock + outcome.time }
  unless outcome.input.length = input.length do leavePending 0 outcome.input.length
  for (stream, text) in outcome.writes do
    write (match stream with
      | .stdout => 1
      | .stderr => 2) text
  if outcome.endless || longestTime < machine.clock + outcome.time then throw .forever
  return .status outcome.status

/-- The variables at the start of a shell that was given an environment. -/
def startVariables (environment : List (Octets × Octets)) (place : List String) : List (Octets × Variable) :=
  let given := environment.map fun (name, value) => (name, ({ value := some value, exported := true } : Variable))
  let own : List (Octets × Variable) :=
    [(octets "PWD", { value := some (placeText place), exported := true }), (octets "OPTIND", { value := some ['1'] }),
     (octets "PS1", { value := some (octets "# ") }), (octets "PS2", { value := some (octets "> ") }),
     (octets "PS4", { value := some (octets "+ ") }), (octets "IFS", { value := some (octets " \t\n") }),
     (octets "PPID", { value := some (octets "1") })]
  own ++ given.filter fun entry => !own.any fun other => other.1 = entry.1

/-- How a shell is called: whether its script is an argument or is read, and the words after its options. -/
structure ShellCall where
  inArgument : Bool := false
  fromInput : Bool := false
  words : List Octets := []
  deriving Inhabited

/-- Reads the options that a shell is called with, at most `fuel` clusters. -/
def readShellCall : (fuel : Nat) → ShellCall → ShellM ShellCall
  | 0, call => return call
  | fuel + 1, call => do
    match call.words with
    | ['-', '-'] :: rest => return { call with words := rest }
    | ['-'] :: rest => return { call with words := rest }
    | ('-' :: letters) :: rest =>
      let letters := if letters.head? = some '-' then letters.tail else letters
      let words ← applyOptions true (letters.filter fun c => c != 'c' && c != 'l') rest
      readShellCall fuel { call with
        inArgument := call.inArgument || letters.contains 'c'
        fromInput := call.fromInput || letters.contains 's'
        words }
    | ('+' :: letters) :: rest =>
      readShellCall fuel { call with words := (← applyOptions false letters rest) }
    | _ => return call

/-- What a new shell does. -/
def shellWork (engine : Engine) (arguments : List Octets) : ShellM Unit := do
  let call ← readShellCall arguments.length { words := arguments }
  let named (words : List Octets) : ShellM Unit := match words with
    | name :: parameters => modifyShell fun shell => { shell with name, parameters }
    | [] => return ()
  if call.inArgument then
    match call.words with
    | [] => giveUp (octets "-c requires an argument")
    | script :: words =>
      named words
      runText engine script
  else
    match call.words, call.fromInput with
    | name :: parameters, false =>
      match ← find name with
      | .file _ bytes =>
        named (name :: parameters)
        runText engine (ofBytes bytes)
      | .directory _ => return ()
      | target => giveUp (octets "cannot open " ++ name ++ octets (": " ++ openReason false target))
    | words, _ =>
      modifyShell fun shell => { shell with parameters := words }
      let text ← pending 0
      leavePending 0 0
      runText engine text

/-- Runs a shell as a program of its own. -/
def runShell (engine : Engine) (name : Octets) (arguments : List Octets) : ShellM Ending := do
  let shell ← theShell
  let process ← newProcess
  modifyShell fun shell => {
    name, process, bindings := startVariables (environment shell) shell.place, place := shell.place,
    descriptors := shell.descriptors, traps := shell.traps.filter fun entry => entry.2.isEmpty }
  let restore := modifyShell fun _ => shell
  let ending ← tryCatch
    (do
      withLastAction engine (shellWork engine arguments)
      return Ending.status ((← theShell).status % 256))
    fun stop => do
      match stop with
      | .signal target n =>
        if target = process then return .signal n
        else
          restore
          throw stop
      | stop =>
        restore
        throw stop
  restore
  return ending

/-- The name of a program that a word leads to, or why there is none. -/
def resolve (word : Octets) : ShellM (Except Target String) := do
  if word.contains '/' then
    match ← find word with
    | .file names bytes => return .error (.file names bytes)
    | .directory names => return .error (.directory names)
    | target =>
      let program? (names : List String) : Option String :=
        if Command.directories.contains names.dropLast then names.getLast?.filter Command.isKnown else none
      let names := (Path.ofText (toText word)).names
      match program? names, program? names.dropLast with
      | some name, _ => return if word.getLast? = some '/' then .error .belowFile else .ok name
      | none, some _ => return .error .belowFile
      | none, none => return .error target
  else
    let name := toText word
    return if Command.isKnown name then .ok name else .error .missing

/-- Runs a program for another one, which has its own way to say that it cannot be started. -/
def callProgram (engine : Engine) (complaint : Octets → Octets) (words : List Octets) : ShellM Ending := do
  match ← resolve (words.head?.getD []) with
  | .ok _ => engine.program words
  | .error target =>
    let (reason, status) := match target with
      | .file _ _ => ("Permission denied", 126)
      | .directory _ => ("Permission denied", 126)
      | .belowFile => ("Not a directory", 126)
      | _ => ("No such file or directory", 127)
    write 2 (complaint (words.head?.getD []) ++ octets (": " ++ reason ++ "\n"))
    return .status status

/-- Splits a text into words as the command that hands them on does: at blanks, with quotes and backslashes. -/
def handedWords : (word : Option Octets) → (quote : Option Char) → Octets → List Octets
  | word, _, [] => (word.map List.reverse).toList
  | word, none, '\\' :: c :: rest => handedWords (some (c :: word.getD [])) none rest
  | word, some quote, c :: rest =>
    if c = quote then handedWords (some (word.getD [])) none rest
    else handedWords (some (c :: word.getD [])) (some quote) rest
  | word, none, c :: rest =>
    if isSpace c then (word.map List.reverse).toList ++ handedWords none none rest
    else if c = '\'' || c = '"' then handedWords (some (word.getD [])) (some c) rest
    else handedWords (some (c :: word.getD [])) none rest

/-- A list cut into groups of some size, at most `fuel` of them. -/
def groups {α : Type} (size : Nat) : (fuel : Nat) → List α → List (List α)
  | 0, _ => []
  | _, [] => []
  | fuel + 1, list => list.take size :: groups size fuel (list.drop size)

/-- Runs a command with arguments that are read. -/
def handOver (engine : Engine) (arguments : List Octets) : ShellM Ending := do
  let text ← pending 0
  leavePending 0 0
  let (size, place, command) : Option Nat × Option Octets × List Octets := match arguments with
    | ['-', 'n'] :: n :: rest => (natural? n, none, rest)
    | ('-' :: 'n' :: n) :: rest => (natural? n, none, rest)
    | ['-', 'I'] :: place :: rest => (none, some place, rest)
    | ('-' :: 'I' :: place) :: rest => (none, some place, rest)
    | rest => (none, none, rest)
  let command := if command.isEmpty then [octets "echo"] else command
  let calls : List (List Octets) := match place with
    | some place =>
      (linesOf text).map fun line => command.map fun word =>
        if place.isEmpty then word else octets ((toText word).replace (toText place) (toText line))
    | none =>
      let words := handedWords none none text
      match size with
      | some size => (groups (max 1 size) words.length words).map (command ++ ·)
      | none => [command ++ words]
  let mut status := 0
  for call in calls do
    match ← callProgram engine (octets "xargs: " ++ ·) call with
    | .status 0 => pure ()
    | .status 126 => return .status 126
    | .status 127 => return .status 127
    | .status _ => status := 123
    | .signal _ => return .status 125
  return .status status

/-- Runs a command with other variables. -/
def withEnvironment (engine : Engine) (arguments : List Octets) : ShellM Ending := do
  let shell ← theShell
  let clear := arguments.head?.any fun word => word = octets "-i" || word = ['-']
  let arguments := if clear then arguments.tail else arguments
  let given := arguments.takeWhile (·.contains '=')
  if clear then modifyShell fun shell => { shell with bindings := [] }
  for word in given do
    let (name, value) := definition word
    putVariable name (some { value, exported := true })
  let ending ← match arguments.drop given.length with
    | [] => do
      write 1 (unlines ((environment (← theShell)).map fun (name, value) => name ++ '=' :: value))
      pure (Ending.status 0)
    | command => callProgram engine (octets "env: " ++ quotedWord ·) command
  modifyShell fun _ => shell
  return ending

/-- Runs a command that is ended after some time. -/
def withTimeout (engine : Engine) (arguments : List Octets) : ShellM Ending := do
  match arguments with
  | [_] =>
    write 2 (octets "Try 'timeout --help' for more information.\n")
    return .status 125
  | time :: command =>
    match Command.interval? time with
    | some limit =>
      let start := (← get).clock
      let stopAt : ShellM Ending := do
        modify fun machine => { machine with clock := start + limit }
        return Ending.status 124
      let complaint (word : Octets) : Octets := octets "timeout: failed to run command " ++ quotedWord word
      let ending ← tryCatch (callProgram engine complaint command) fun stop => do
        if stop = .forever && limit != 0 then stopAt else throw stop
      if limit != 0 && start + limit < (← get).clock then stopAt else return ending
    | none =>
      write 2 (octets "timeout: invalid time interval " ++ quotedWord time ++
        octets "\nTry 'timeout --help' for more information.\n")
      return .status 125
  | [] =>
    write 2 (octets "Try 'timeout --help' for more information.\n")
    return .status 125

/-- Sends a signal from a program of its own. -/
def killProgram (arguments : List Octets) : ShellM Ending := do
  match killSwitches arguments with
  | .error text =>
    write 2 (octets "kill: " ++ text ++ ['\n'])
    return .status 1
  | .ok (signal, targets) =>
    for word in targets do
      if natural? word = some (← theShell).process then
        unless Signal.isHarmless signal do
          if Signal.isHalting signal then throw .forever else throw (.signal (← theShell).process signal)
    return .status 0

/-- Runs a program that is known. -/
def runKnown (engine : Engine) (name : String) (word : Octets) (arguments : List Octets) : ShellM Ending :=
  match Command.table.lookup name with
  | some work => runCommand work word arguments
  | none =>
    match name with
    | "env" => withEnvironment engine arguments
    | "xargs" => handOver engine arguments
    | "timeout" => withTimeout engine arguments
    | "nohup" => callProgram engine (octets "nohup: failed to run command " ++ quotedWord ·) arguments
    | "nice" => callProgram engine (octets "nice: " ++ quotedWord ·) arguments
    | "kill" => killProgram arguments
    | _ => runShell engine word arguments

/-- Runs a program that another one calls by its words. -/
def runProgram (engine : Engine) (words : List Octets) : ShellM Ending := do
  match words with
  | [] => return .status 0
  | word :: arguments =>
    match ← resolve word with
    | .ok name => runKnown engine name word arguments
    | .error _ => return .status 127

/-- Runs a program for the shell. With `replaces` it takes the place of the shell. -/
def runExternal (engine : Engine) (replaces : Bool) (words : List Octets) : ShellM Unit := do
  match words with
  | [] => return ()
  | word :: arguments =>
    match ← resolve word with
    | .ok name =>
      let ending ← runKnown engine name word arguments
      match ending with
      | .signal n => if replaces then throw (.signal (← theShell).process n) else notice ending
      | .status _ => pure ()
      setStatus ending.code
    | .error target =>
      let (reason, status) := match target with
        | .file _ _ => ("Permission denied", 126)
        | .directory _ => ("Permission denied", 126)
        | _ => if word.isEmpty then ("Permission denied", 127) else ("not found", 127)
      complain (word ++ octets (": " ++ reason))
      setStatus status

end Utterance.Host.Shell
