import Utterance.Host.Commands
import Utterance.Host.Shell.Expand
import Utterance.Host.Shell.Parse
import Utterance.Host.Shell.Signal

/-!
# Builtins

The commands that a shell does itself, as far as they do not run others. A fault in a special builtin ends the shell; in
any other it is a status.
-/

namespace Utterance.Host.Shell
set_option autoImplicit false

/-- The builtins that are not special. -/
def plainBuiltins : List String :=
  ["[", "alias", "bg", "cd", "command", "echo", "false", "fg", "getopts", "hash", "jobs", "kill", "printf", "pwd",
   "read", "test", "true", "type", "ulimit", "umask", "unalias", "wait"]

/-- Whether a fault in a builtin ends the shell. -/
def isSpecialBuiltin (name : String) : Bool :=
  specialBuiltins.contains name || name = "local"

/-- Whether a command is done by the shell itself. -/
def isBuiltin (name : String) : Bool :=
  isSpecialBuiltin name || plainBuiltins.contains name

/-- A status with a complaint. -/
def failed (text : Octets) (status : Nat := 2) : ShellM Nat := do
  complain text
  return status

/-- Writes to the standard output. -/
def print (text : Octets) : ShellM Nat := do
  write 1 text
  return 0

/-- A number that is not negative, or the end of the shell. -/
def countOrGiveUp (word : Octets) : ShellM Nat := do
  match natural? word with
  | some n => return n
  | none => giveUp (octets "Illegal number: " ++ word)

/-- A text in quotes as the shell would read it back, at most `fuel` times; quotes in it are in quotes of the other
kind. -/
def requotedFrom : (fuel : Nat) → Octets → Octets
  | 0, _ => []
  | fuel + 1, text =>
    let plain := text.takeWhile (· != '\'')
    let rest := text.dropWhile (· != '\'')
    let quotes := rest.takeWhile (· = '\'')
    let after := rest.dropWhile (· = '\'')
    ['\''] ++ plain ++ ['\''] ++ (if quotes.isEmpty then [] else ['"'] ++ quotes ++ ['"']) ++
      if after.isEmpty then [] else requotedFrom fuel after

/-- A text in quotes as the shell would read it back. -/
def requoted (text : Octets) : Octets :=
  requotedFrom (text.length + 1) text

/-! ## Places and variables -/

/-- The path of a place. -/
def placeText (place : List String) : Octets :=
  '/' :: joinWith ['/'] (place.map octets)

/-- Changes the directory. -/
def changeDirectory (arguments : List Octets) : ShellM Nat := do
  let arguments := arguments.dropWhile fun word => word = octets "-L" || word = octets "-P" || word = octets "--"
  let previous := arguments.head? = some ['-']
  let name ← match arguments with
    | [] => do pure ((← valueOf (octets "HOME")).getD [])
    | ['-'] :: _ => do pure ((← valueOf (octets "OLDPWD")).getD (placeText (← theShell).place))
    | name :: _ => pure name
  if arguments.isEmpty && name.isEmpty then return 0
  match ← find (if name.isEmpty then ['.'] else name) with
  | .directory place =>
    let old := (← theShell).place
    modifyShell fun shell => { shell with place }
    setVariable (octets "OLDPWD") (placeText old)
    setVariable (octets "PWD") (placeText place)
    if previous then print (placeText place ++ ['\n']) else return 0
  | _ => failed (octets "can't cd to " ++ name)

/-- A word cut at its first equals sign. -/
def definition (word : Octets) : Octets × Option Octets :=
  match breakAt '=' [] word with
  | some (name, value) => (name, some value)
  | none => (word, none)

/-- The variables that satisfy a test, as commands that set them. -/
def declarations (command : String) (test : Variable → Bool) : ShellM Nat := do
  let bindings := (← theShell).bindings.filter fun entry => test entry.2
  let sorted := bindings.mergeSort fun a b => inOctetOrder a.1 b.1
  print (sorted.flatMap fun (name, found) =>
    octets command ++ name ++ (match found.value with
      | some value => '=' :: requoted value
      | none => []) ++ ['\n'])

/-- Marks variables, setting those that are given a value. -/
def declare (command : String) (test : Variable → Bool) (mark : Variable → Variable) (arguments : List Octets) :
    ShellM Nat := do
  match arguments with
  | [] => declarations command test
  | ['-', 'p'] :: _ => declarations command test
  | arguments =>
    for word in arguments.dropWhile (· = octets "--") do
      let (name, value) := definition word
      unless isName name do giveUp (name ++ octets ": bad variable name")
      match value with
      | some value => setVariable name value
      | none => pure ()
      putVariable name (some (mark ((← variableOf name).getD {})))
    return 0

/-- Makes variables those of the function that is running. -/
def declareLocal (arguments : List Octets) : ShellM Nat := do
  if (← theShell).saved.isEmpty then giveUp (octets "not in a function")
  for word in arguments do
    let (name, value) := definition word
    unless isName name do giveUp (name ++ octets ": bad variable name")
    let old ← variableOf name
    modifyShell fun shell =>
      match shell.saved with
      | frame :: rest =>
        let isSaved := frame.any fun entry => entry.1 = name
        { shell with saved := (if isSaved then frame else (name, old) :: frame) :: rest }
      | [] => shell
    match value with
    | some value => setVariable name value
    | none => pure ()
  return 0

/-- Takes variables or functions away. -/
def undeclare (arguments : List Octets) : ShellM Nat := do
  let functions := arguments.head? = some (octets "-f")
  let arguments := if arguments.head?.any fun word => word = octets "-f" || word = octets "-v" then arguments.tail
    else arguments
  for name in arguments do
    if functions then
      modifyShell fun shell => { shell with functions := shell.functions.filter fun entry => entry.1 != name }
    else
      unless isName name do giveUp (name ++ octets ": bad variable name")
      if ((← variableOf name).getD {}).fixed then giveUp (name ++ octets ": is read only")
      putVariable name none
  return 0

/-! ## Options and parameters -/

/-- The options with their letters, in the order in which they are listed. -/
def options : List (Char × String) :=
  [('e', "errexit"), ('f', "noglob"), ('I', "ignoreeof"), ('i', "interactive"), ('m', "monitor"), ('n', "noexec"),
   ('s', "stdin"), ('x', "xtrace"), ('v', "verbose"), ('V', "vi"), ('E', "emacs"), ('C', "noclobber"),
   ('a', "allexport"), ('b', "notify"), ('u', "nounset"), ('p', "privileged"), ('l', "nolog"), ('d', "debug")]

/-- The letters of the options that can be set by a letter. -/
def optionLetters : Octets :=
  "efIimnsxvVECabup".toList

/-- Options with one of them turned on or off. -/
def withOption (on : Bool) (letter : Char) (settings : Octets) : Octets :=
  let chosen := if on then letter :: settings else settings.filter (· != letter)
  (options.map Prod.fst).filter chosen.contains

/-- Turns an option on or off. -/
def setOption (on : Bool) (letter : Char) : ShellM Unit :=
  modifyShell fun shell => { shell with settings := withOption on letter shell.settings }

/-- All options, in words or as commands. -/
def listOptions (inWords : Bool) : ShellM Nat := do
  let settings := (← theShell).settings
  let rows := options.map fun (letter, name) =>
    let on := settings.contains letter
    if inWords then padRight 16 (octets name) ++ octets (if on then "on" else "off")
    else octets ("set " ++ (if on then "-" else "+") ++ "o " ++ name)
  print (unlines (if inWords then octets "Current option settings" :: rows else rows))

/-- The letters of a cluster of options, and what follows it. The letter `o` takes a name. -/
def applyOptions (on : Bool) : Octets → List Octets → ShellM (List Octets)
  | [], rest => return rest
  | 'o' :: letters, rest => do
    match rest with
    | [] =>
      let _ ← listOptions on
      applyOptions on letters []
    | name :: rest =>
      match options.find? fun entry => octets entry.2 = name with
      | some (letter, _) =>
        setOption on letter
        applyOptions on letters rest
      | none => giveUp (octets "Illegal option " ++ (if on then '-' else '+') :: octets "o " ++ name)
  | letter :: letters, rest => do
    if optionLetters.contains letter then
      setOption on letter
      applyOptions on letters rest
    else giveUp (octets "Illegal option " ++ [if on then '-' else '+', letter])

/-- Sets options, at most `fuel` clusters of them; the words after them, and whether they are all parameters. -/
def readOptions : (fuel : Nat) → List Octets → ShellM (List Octets × Bool)
  | 0, words => return (words, false)
  | fuel + 1, words => do
    match words with
    | ['-', '-'] :: rest => return (rest, true)
    | ['-'] :: rest => return (rest, true)
    | ('-' :: letters) :: rest => readOptions fuel (← applyOptions true letters rest)
    | ('+' :: letters) :: rest => readOptions fuel (← applyOptions false letters rest)
    | words => return (words, false)

/-- Sets options and parameters, or lists variables. -/
def setCommand (arguments : List Octets) : ShellM Nat := do
  if arguments.isEmpty then declarations "" fun found => found.value.isSome
  else
    let (words, all) ← readOptions arguments.length arguments
    if all || !words.isEmpty then modifyShell fun shell => { shell with parameters := words }
    return 0

/-- Takes the first parameters away. -/
def shift (arguments : List Octets) : ShellM Nat := do
  let count ← match arguments with
    | [] => pure 1
    | word :: _ => countOrGiveUp word
  if (← theShell).parameters.length < count then giveUp (octets "can't shift that many")
  modifyShell fun shell => { shell with parameters := shell.parameters.drop count }
  return 0

/-- Reads options from parameters one by one. -/
def getopts (arguments : List Octets) : ShellM Nat := do
  match arguments with
  | known :: name :: given =>
    let shell ← theShell
    let words := if given.isEmpty then shell.parameters else given
    let place := max 1 ((((← valueOf (octets "OPTIND")).bind natural?)).getD 1)
    let finish (place : Nat) : ShellM Nat := do
      setVariable name ['?']
      setVariable (octets "OPTIND") (digitsOf 10 place)
      modifyShell fun shell => { shell with cluster := 0 }
      return 1
    let silent := known.head? = some ':'
    match words[place - 1]? with
    | none => finish place
    | some word =>
      if shell.cluster = 0 && (word.head? != some '-' || word.length < 2) then finish place
      else if shell.cluster = 0 && word = octets "--" then finish (place + 1)
      else
        let position := max 1 shell.cluster
        let letter := word[position]?.getD '?'
        let rest := word.drop (position + 1)
        let goOn (place cluster : Nat) : ShellM Unit := do
          setVariable (octets "OPTIND") (digitsOf 10 place)
          modifyShell fun shell => { shell with cluster }
        let step : ShellM Unit := if rest.isEmpty then goOn (place + 1) 0 else goOn place (position + 1)
        if letter = ':' || !known.contains letter then
          step
          setVariable name ['?']
          if silent then setVariable (octets "OPTARG") [letter]
          else
            write 2 (octets "Illegal option -" ++ [letter, '\n'])
            putVariable (octets "OPTARG") none
          return 0
        else if (known.dropWhile (· != letter)).tail.head? = some ':' then
          if !rest.isEmpty then
            setVariable (octets "OPTARG") rest
            goOn (place + 1) 0
            setVariable name [letter]
            return 0
          else
            match words[place]? with
            | some argument =>
              setVariable (octets "OPTARG") argument
              goOn (place + 2) 0
              setVariable name [letter]
              return 0
            | none =>
              goOn (place + 1) 0
              if silent then
                setVariable (octets "OPTARG") [letter]
                setVariable name [':']
              else
                write 2 (octets "No arg for -" ++ letter :: octets " option\n")
                putVariable (octets "OPTARG") none
                setVariable name ['?']
              return 0
        else
          step
          putVariable (octets "OPTARG") (some { value := some [] })
          setVariable name [letter]
          return 0
  | _ => failed (octets "Usage: getopts optstring var [arg...]")

/-! ## Reading -/

/-- A line of input: its characters, marked if a backslash stood before them, whether it was ended by a newline, and how
much of the text it took. -/
def inputLine (raw : Bool) : (line : Marked) → (taken : Nat) → Octets → Marked × Bool × Nat
  | line, taken, [] => (line.reverse, false, taken)
  | line, taken, '\n' :: _ => (line.reverse, true, taken + 1)
  | line, taken, '\\' :: rest =>
    if raw then inputLine raw (('\\', false) :: line) (taken + 1) rest
    else match rest with
      | [] => (line.reverse, false, taken + 1)
      | '\n' :: rest => inputLine raw line (taken + 2) rest
      | c :: rest => inputLine raw ((c, true) :: line) (taken + 2) rest
  | line, taken, c :: rest =>
    inputLine raw (if c = '\x00' then line else (c, false) :: line) (taken + 1) rest

/-- A marked text without blanks that separate at its end. -/
def withoutBlanks (blank : Char × Bool → Bool) (line : Marked) : Marked :=
  (line.reverse.dropWhile blank).reverse

/-- The values of so many names from a line. The last name takes all that is left. -/
def shares (separators : Octets) : (names : Nat) → Marked → List Octets
  | 0, _ => []
  | names + 1, line =>
    let separates (c : Char × Bool) : Bool := !c.2 && separators.contains c.1
    let blank (c : Char × Bool) : Bool := separates c && (c.1 = ' ' || c.1 = '\t' || c.1 = '\n')
    let line := line.dropWhile blank
    let word := line.takeWhile fun c => !separates c
    let after := (line.drop word.length).dropWhile blank
    let rest := if after.head?.any separates then after.tail.dropWhile blank else after
    if names = 0 then [(if rest.isEmpty then word else withoutBlanks blank line).map Prod.fst]
    else word.map Prod.fst :: shares separators names rest

/-- Reads a line into variables. -/
def readCommandLine (arguments : List Octets) : ShellM Nat := do
  let switches := arguments.takeWhile fun word => word.head? = some '-' && word.length > 1 && word != octets "--"
  match switches.flatMap List.tail |>.find? fun c => c != 'r' with
  | some c => failed (octets "Illegal option -" ++ [c])
  | none =>
    let names := (arguments.drop switches.length).dropWhile (· = octets "--")
    match names with
    | [] => failed (octets "arg count")
    | names =>
      match names.find? fun name => !isName name with
      | some name => failed (name ++ octets ": bad variable name")
      | none =>
        let text ← pending 0
        let (line, complete, taken) := inputLine (!switches.isEmpty) [] 0 text
        leavePending 0 (text.length - taken)
        let values := shares (← separators) names.length line
        for (name, value) in names.zip values do
          setVariable name value
        return if complete then 0 else 1

/-! ## Printing and conditions -/

/-- Prints arguments as a format says. -/
def printFormatted (arguments : List Octets) : ShellM Nat := do
  let arguments ← match arguments with
    | ['-', '-'] :: rest => pure (Except.ok rest)
    | ('-' :: c :: _) :: _ => pure (Except.error c)
    | arguments => pure (Except.ok arguments)
  match arguments with
  | .error c => failed (octets "Illegal option -" ++ [c])
  | .ok [] => failed (octets "usage: printf format [arg ...]")
  | .ok (format :: rest) =>
    let shell ← theShell
    let complaint (text : Octets) : Octets :=
      shell.name ++ octets ": " ++ digitsOf 10 shell.line ++ octets ": " ++ shell.speaker ++ text ++ ['\n']
    let (writes, status) := Printf.Printer.print ⟨.inShell, complaint⟩ format rest
    for (stream, text) in writes do
      if stream = .stderr then write 2 text
    for (stream, text) in writes do
      if stream = .stdout then write 1 text
    return status

/-- Decides a condition. -/
def decideCondition (bracket : Bool) (arguments : List Octets) : ShellM Nat := do
  if bracket && arguments.getLast? != some [']'] then failed (octets "missing ]")
  else
    let machine ← get
    let call : Call := { name := [], arguments := [], files := machine.files, place := machine.shell.place }
    let scene : Condition.Scene := ⟨call.find, true⟩
    match scene.shellVerdict (if bracket then arguments.dropLast else arguments) with
    | .error text => failed text
    | .ok holds => return Condition.statusOf holds

/-! ## Names of commands -/

/-- Where a program is. -/
def programPath? (name : Octets) : ShellM (Option Octets) := do
  if name.contains '/' then
    match ← find name with
    | .file _ _ => return some name
    | .directory _ => return some name
    | _ =>
      let path := Path.ofText (toText name)
      let known := Command.directories.contains path.names.dropLast && path.names.getLast?.any Command.isKnown
      return if known then some name else none
  else return if Command.isKnown (toText name) then some (octets "/usr/bin/" ++ name) else none

/-- Says what commands are. -/
def describe (arguments : List Octets) : ShellM Nat := do
  let mut status := 0
  for name in arguments do
    let text := toText name
    let sentence ← do
      if keywords.contains text then pure (some (octets " is a shell keyword"))
      else if (← theShell).functions.any fun entry => entry.1 = name then pure (some (octets " is a shell function"))
      else if specialBuiltins.contains text || text = "local" then pure (some (octets " is a special shell builtin"))
      else if isBuiltin text then pure (some (octets " is a shell builtin"))
      else
        match ← programPath? name with
        | some path => pure (some (octets " is " ++ path))
        | none => pure none
    match sentence with
    | some sentence => write 1 (name ++ sentence ++ ['\n'])
    | none =>
      write 1 (name ++ octets ": not found\n")
      status := 127
  return status

/-- Names a command as it would be called. -/
def locate (name : Octets) : ShellM Nat := do
  let text := toText name
  if keywords.contains text || isBuiltin text || (← theShell).functions.any fun entry => entry.1 = name then
    print (name ++ ['\n'])
  else
    match ← programPath? name with
    | some path => print (path ++ ['\n'])
    | none => return 127

/-- Lets words stand for other texts, or lists those that do. -/
def setAliases (arguments : List Octets) : ShellM Nat := do
  let shown (entry : Octets × Octets) : Octets := entry.1 ++ '=' :: requoted entry.2 ++ ['\n']
  if arguments.isEmpty then print ((← theShell).aliases.reverse.flatMap shown)
  else
    let mut status := 0
    for word in arguments do
      match definition word with
      | (name, some value) => modifyShell fun shell =>
        { shell with aliases := (name, value) :: shell.aliases.filter fun entry => entry.1 != name }
      | (name, none) =>
        match (← theShell).aliases.lookup name with
        | some value => write 1 (shown (name, value))
        | none =>
          write 2 (octets "alias: " ++ name ++ octets " not found\n")
          status := 1
    return status

/-- Lets words stand for themselves again. -/
def clearAliases (arguments : List Octets) : ShellM Nat := do
  let mut status := 0
  for name in arguments do
    if name = octets "-a" then modifyShell fun shell => { shell with aliases := [] }
    else if (← theShell).aliases.any fun entry => entry.1 = name then
      modifyShell fun shell => { shell with aliases := shell.aliases.filter fun entry => entry.1 != name }
    else
      write 2 (octets "unalias: " ++ name ++ octets " not found\n")
      status := 1
  return status

/-! ## Signals and jobs -/

/-- Sets what is done at signals, or lists it. -/
def trap (arguments : List Octets) : ShellM Nat := do
  let arguments := arguments.dropWhile (· = octets "--")
  let (action, signals) : Option Octets × List Octets := match arguments with
    | [] => (none, [])
    | [only] => (none, [only])
    | ['-'] :: rest => (none, rest)
    | first :: rest => if (natural? first).isSome then (none, first :: rest) else (some first, rest)
  if arguments.isEmpty then
    let traps := (← theShell).traps.mergeSort fun a b => decide (a.1 ≤ b.1)
    print (traps.flatMap fun (n, action) =>
      octets "trap -- " ++ requoted action ++ ' ' :: octets (Signal.names[n]?.getD "") ++ ['\n'])
  else
    let mut status := 0
    for word in signals do
      match Signal.number? word with
      | none =>
        write 2 (octets "trap: " ++ word ++ octets ": bad trap\n")
        status := 1
      | some n =>
        modifyShell fun shell =>
          let others := shell.traps.filter fun entry => entry.1 != n
          { shell with traps := match action with
              | some action => (n, action) :: others
              | none => others }
    return status

/-- The status of an ending. -/
def Ending.code : Ending → Nat
  | .status n => n
  | .signal n => 128 + n

/-- Says that a signal ended something. -/
def notice (ending : Ending) : ShellM Unit := do
  match ending with
  | .signal n =>
    match Signal.notice? n with
    | some text => write 2 (octets text ++ ['\n'])
    | none => return ()
  | .status _ => return ()

/-- Waits for jobs. -/
def waitFor (arguments : List Octets) : ShellM Nat := do
  match arguments with
  | [] =>
    for job in (← theShell).jobs do
      waitUntil job.finish
      notice job.ending
    modifyShell fun shell =>
      { shell with jobs := shell.jobs.map fun job => { job with ending := .status job.ending.code } }
    return 0
  | arguments =>
    let mut status := 0
    for word in arguments do
      match natural? (if word.head? = some '%' then word.tail else word) with
      | none => return ← failed (octets "Illegal number: " ++ word)
      | some n =>
        let jobs := (← theShell).jobs
        let job? := if word.head? = some '%' then jobs.reverse[n - 1]? else jobs.find? fun job => job.process = n
        match job? with
        | none => status := 127
        | some job =>
          waitUntil job.finish
          notice job.ending
          status := job.ending.code
    return status

/-- Sends a signal to a job. -/
def killJob (signal : Nat) (job : Job) : ShellM Unit := do
  let now := (← get).clock
  if now < job.finish && !Signal.isHarmless signal then
    modify fun machine => { machine with holds := machine.holds.filter fun hold => hold.2.1 != job.process }
    modifyShell fun shell => { shell with jobs := shell.jobs.map fun other =>
      if other.process = job.process then { job with finish := now, ending := .signal signal } else other }

/-- The signal that switches name, and what follows them. -/
def killSwitches (arguments : List Octets) : Except Octets (Nat × List Octets) :=
  let named (word : Octets) (rest : List Octets) : Except Octets (Nat × List Octets) :=
    match Signal.number? word with
    | some n => .ok (n, rest)
    | none => .error (octets "invalid signal number or name: " ++ word)
  match arguments with
  | ['-', 's'] :: word :: rest => named word rest
  | ['-', '-'] :: rest => .ok (15, rest)
  | ('-' :: 's' :: c :: word) :: rest =>
    if c.isUpper then named (c :: word) rest else .error (octets "Illegal option -s")
  | ('-' :: c :: word) :: rest =>
    match Signal.number? (c :: word) with
    | some n => .ok (n, rest)
    | none => .error (octets "Illegal option -" ++ [c])
  | rest => .ok (15, rest)

/-- The names of signals, or of those that were the reason of a status. -/
def listSignals (arguments : List Octets) : ShellM Nat := do
  match arguments with
  | [] => print (unlines (['0'] :: (List.range Signal.greatest).map fun n => octets (Signal.name (n + 1))))
  | word :: _ =>
    match natural? word with
    | some n =>
      match Signal.names[if 128 < n then n - 128 else n]? with
      | some name => print (octets name ++ ['\n'])
      | none => failed (octets "invalid signal number or exit status: " ++ word)
    | none => failed (octets "Illegal number: " ++ word)

end Utterance.Host.Shell
