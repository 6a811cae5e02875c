import Utterance.Host.Shell.Program

/-!
# Running scripts

What a command does is defined from what the commands inside of it do, so the depth to which commands are nested is
the only bound on recursion; a script that goes deeper counts as one that never ends.
-/

namespace Utterance.Host.Shell
set_option autoImplicit false

/-! ## Builtins that run commands -/

/-- How signals are sent. -/
def killUsage : Octets :=
  octets "Usage: kill [-s sigspec | -signum | -sigspec] [pid | job]... or\nkill -l [exitstatus]"

/-- Sends signals. -/
def sendSignals (engine : Engine) (arguments : List Octets) : ShellM Nat := do
  match arguments with
  | [] => failed killUsage
  | ['-', 'l'] :: rest => listSignals rest
  | arguments =>
    match killSwitches arguments with
    | .error text => failed text
    | .ok (_, []) => failed killUsage
    | .ok (signal, targets) =>
      let mut status := 0
      for word in targets do
        let shell ← theShell
        let job? := if word.head? = some '%' then (natural? word.tail).bind fun n => shell.jobs.reverse[n - 1]?
          else shell.jobs.find? fun job => some job.process = natural? word
        match natural? word, job? with
        | _, some job => killJob signal job
        | none, none => status ← failed (octets "Illegal number: " ++ word)
        | some process, none =>
          if process = shell.process || process = 0 then
            match shell.traps.lookup signal with
            | some action =>
              setStatus status
              unless action.isEmpty || signal = 0 do runAction engine action
            | none =>
              if Signal.isHalting signal then throw .forever
              else unless Signal.isHarmless signal do throw (.signal shell.process signal)
          else
            complain (octets "No such process\n")
            status := 1
      return status

/-- Runs a file in this shell. -/
def source (engine : Engine) (arguments : List Octets) : ShellM Nat := do
  match arguments with
  | [] => return 0
  | name :: _ =>
    if !name.contains '/' then giveUp (name ++ octets ": not found")
    else
      match ← find name with
      | .file _ bytes =>
        modifyShell fun shell => { shell with speaker := name ++ octets ": " }
        setStatus 0
        tryCatch (runText engine (ofBytes bytes)) fun stop => do
          match stop with
          | .back status => setStatus status
          | stop => throw stop
        return (← theShell).status
      | .directory _ => return 0
      | target => giveUp (octets "cannot open " ++ name ++ octets (": " ++ openReason false target))

/-- Leaves loops, or goes on with the next round of one. -/
def leaveLoops (stop : Nat → Stop) (arguments : List Octets) : ShellM Nat := do
  let count ← match arguments with
    | [] => pure 1
    | word :: _ => countOrGiveUp word
  if count = 0 then giveUp (octets "Illegal number: 0")
  let loops := (← theShell).loops
  if loops = 0 then return 0 else throw (stop (min count loops))

/-- The status that a word asks for. -/
def askedStatus (arguments : List Octets) : ShellM Nat := do
  match arguments with
  | [] => return (← theShell).status
  | word :: _ => countOrGiveUp word

/-- Does what a builtin does; its status. -/
def doBuiltin (engine : Engine) (tested : Bool) (name : String) (arguments : List Octets) : ShellM Nat := do
  match name with
  | ":" => return 0
  | "true" => return 0
  | "false" => return 1
  | "echo" => print (Echo.inShell arguments)
  | "printf" => printFormatted arguments
  | "test" => decideCondition false arguments
  | "[" => decideCondition true arguments
  | "cd" => changeDirectory arguments
  | "pwd" => print (placeText (← theShell).place ++ ['\n'])
  | "exit" => throw (.exit ((← askedStatus arguments) % 256))
  | "return" => throw (.back (← askedStatus arguments))
  | "break" => leaveLoops .leave arguments
  | "continue" => leaveLoops .next arguments
  | "shift" => shift arguments
  | "set" => setCommand arguments
  | "unset" => undeclare arguments
  | "export" => declare "export " Variable.exported (fun found => { found with exported := true }) arguments
  | "readonly" => declare "readonly " Variable.fixed (fun found => { found with fixed := true }) arguments
  | "local" => declareLocal arguments
  | "eval" =>
    setStatus 0
    runText engine (joinWith [' '] arguments) tested
    return (← theShell).status
  | "." => source engine arguments
  | "trap" => trap arguments
  | "wait" => waitFor arguments
  | "kill" => sendSignals engine arguments
  | "read" => readCommandLine arguments
  | "getopts" => getopts arguments
  | "type" => describe arguments
  | "umask" => if arguments.isEmpty then print (octets "0022\n") else return 0
  | "ulimit" => if arguments.isEmpty then print (octets "unlimited\n") else return 0
  | "times" => print (octets "0m0.000000s 0m0.000000s\n0m0.000000s 0m0.000000s\n")
  | "alias" => setAliases arguments
  | "unalias" => clearAliases arguments
  | "hash" =>
    for name in arguments.filter fun word => word.head? != some '-' do
      unless isBuiltin (toText name) || (← programPath? name).isSome do
        return ← failed (name ++ octets ": not found") 1
    return 0
  | "fg" => failed (octets "No current job")
  | "bg" => failed (octets "No current job")
  | _ => return 0

/-- Runs a builtin, which speaks in its own name. -/
def runBuiltin (engine : Engine) (tested : Bool) (name : Octets) (arguments : List Octets) : ShellM Unit := do
  let speaker := (← theShell).speaker
  modifyShell fun shell => { shell with speaker := name ++ octets ": " }
  let status ← tryCatch (doBuiltin engine tested (toText name) arguments) fun stop => do
    modifyShell fun shell => { shell with speaker }
    throw stop
  modifyShell fun shell => { shell with speaker, status }

/-- How many calls of functions may be inside one another. -/
def greatestCalls : Nat := 1000

/-- Calls a function. -/
def callFunction (engine : Engine) (tested : Bool) (body : Command) (arguments : List Octets) : ShellM Unit := do
  let shell ← theShell
  if greatestCalls ≤ shell.calls then
    giveUp (octets "Maximum function recursion depth (1000) reached")
  modifyShell fun shell =>
    { shell with parameters := arguments, saved := [] :: shell.saved, loops := 0, calls := shell.calls + 1 }
  let restore : ShellM Unit := do
    for (name, old) in (← theShell).saved.head?.getD [] do
      putVariable name old
    modifyShell fun now =>
      { now with parameters := shell.parameters, saved := shell.saved, loops := shell.loops, calls := shell.calls }
  tryCatch (engine.command tested body) fun stop => do
    match stop with
    | .back status => setStatus status
    | stop =>
      restore
      throw stop
  restore

/-- Sets variables while something is done, and sets them back. -/
def withAssignments (exported : Bool) (assignments : List (Octets × Octets)) (work : ShellM Unit) : ShellM Unit := do
  if assignments.isEmpty then work
  else
    let old ← assignments.mapM fun (name, _) => do return (name, ← variableOf name)
    for (name, value) in assignments do
      setVariable name value
      if exported then putVariable name (some { (← variableOf name).getD {} with exported := true })
    let restore : ShellM Unit := do
      for (name, former) in old do
        putVariable name former
    tryCatch work fun stop => do
      restore
      throw stop
    restore

/-! ## Commands -/

/-- Ends the shell after a failure, if that is wanted and nothing looks at the status. -/
def checkFailure (tested : Bool) : ShellM Unit := do
  unless tested do
    let shell ← theShell
    if shell.status != 0 && shell.settings.contains 'e' then throw (.exit shell.status)

/-- Shows a command before it runs, if that is wanted. -/
def showCommand (assignments : List (Octets × Octets)) (words : List Octets) : ShellM Unit := do
  if ← hasSetting 'x' then
    let shown := assignments.map (fun (name, value) => name ++ '=' :: value) ++ words
    write 2 ((← valueOf (octets "PS4")).getD [] ++ joinWith [' '] shown ++ ['\n'])

/-- Skips the names of the builtin that runs a command without looking for functions, and its switches. -/
def unwrapped : List Octets → List Octets × Bool
  | word :: rest =>
    if word = octets "command" then
      match rest with
      | ['-', '-'] :: rest => (rest, true)
      | ['-', 'p'] :: rest => (rest, true)
      | ('-' :: switches) :: rest => (word :: ('-' :: switches) :: rest, false)
      | rest => ((unwrapped rest).1, true)
    else (word :: rest, false)
  | [] => ([], false)

/-- Runs the command that words are, with variables set. -/
def runWords (engine : Engine) (tested : Bool) (assignments : List (Octets × Octets)) (words : List Octets) :
    ShellM Unit := do
  let (words, direct) := unwrapped words
  match words with
  | [] => setStatus 0
  | word :: arguments =>
    let name := toText word
    let functions := (← theShell).functions
    let function? := if direct then none else functions.lookup word
    match function? with
    | some body => withAssignments false assignments (callFunction engine tested body arguments)
    | none =>
      if name = "exec" then
        for (target, value) in assignments do
          setVariable target value
        if arguments.isEmpty then setStatus 0
        else
          let speaker := (← theShell).speaker
          modifyShell fun shell => { shell with speaker := octets "exec: " }
          runExternal engine true arguments
          modifyShell fun shell => { shell with speaker }
          modifyShell fun shell => { shell with traps := [] }
          throw (.exit (← theShell).status)
      else if name = "command" then
        match arguments with
        | ('-' :: switches) :: rest =>
          if switches.contains 'v' then
            match rest with
            | target :: _ => setStatus (← locate target)
            | [] => setStatus 0
          else if switches.contains 'V' then runBuiltin engine tested (octets "type") rest
          else
            complain (octets "command: Illegal option -" ++ switches.take 1)
            setStatus 2
        | _ => setStatus 0
      else if isBuiltin name then
        if specialBuiltins.contains name && !direct then
          for (target, value) in assignments do
            setVariable target value
          runBuiltin engine tested word arguments
        else withAssignments false assignments (runBuiltin engine tested word arguments)
      else withAssignments true assignments (runExternal engine false words)

/-- Runs a simple command. -/
def runSimple (engine : Engine) (tested : Bool) (line : Nat) (assignments : List (Octets × Word)) (words : List Word)
    (redirections : List Redirection) : ShellM Unit := do
  if (← get).budget = 0 then throw .forever
  modify fun machine => { machine with budget := machine.budget - 1 }
  modifyShell fun shell => { shell with line, substituted := none }
  let words ← expandFields engine words
  let name := toText (words.head?.getD [])
  let special := specialBuiltins.contains name
  let values : ShellM (List (Octets × Octets)) := assignments.mapM fun (name, word) => do
    return (name, ← expandText engine word)
  if words.isEmpty then
    redirecting engine redirections (fun _ => pure ()) do
      for (name, word) in assignments do
        let value ← expandText engine word
        showCommand [(name, value)] []
        setVariable name value
      let shell ← theShell
      setStatus (shell.substituted.getD 0)
  else if name = "exec" && words.length = 1 then
    match ← redirectAll engine redirections with
    | none =>
      let assignments ← values
      showCommand assignments words
      runWords engine tested assignments words
    | some text => giveUp text
  else
    redirecting engine redirections (fun status => if special then throw (.exit status) else pure ()) do
      let assignments ← values
      showCommand assignments words
      runWords engine tested assignments words

/-- How many commands may run after one that does not end but that nobody waits for. -/
def spareBudget : Nat := 100000

/-- Runs the stages of a pipeline, each with what the one before wrote; its status. -/
def runStages (engine : Engine) (start : Nat) : (input : Option Nat) → (endless : Bool) → (finish : Nat) →
    List Command → ShellM Nat
  | _, _, _, [] => return 0
  | input, endless, finish, stage :: rest => do
    modify fun machine => { machine with clock := start }
    let output ← if rest.isEmpty then pure none else some <$> newChannel (.sink [])
    let connect (descriptors : List (Nat × Nat)) : List (Nat × Nat) :=
      let descriptors := match input with
        | some id => connected 0 id descriptors
        | none => descriptors
      match output with
      | some id => connected 1 id descriptors
      | none => descriptors
    let (status, goesOn) ← tryCatch
      (do
        let status ← withDescriptors connect (inFullSubshell engine (engine.command true stage))
        return (status, false))
      fun stop => do
        if stop = .forever && !rest.isEmpty then
          modify fun machine => { machine with budget := max machine.budget spareBudget }
          return (0, true)
        else throw stop
    let unread ← match input with
      | some id => match (← get).channels[id]?.getD .null with
        | .source text => pure !text.isEmpty
        | _ => pure false
      | none => pure false
    if endless && !unread then throw .forever
    let finish := max finish (← get).clock
    match output with
    | none =>
      modify fun machine => { machine with clock := finish }
      return status
    | some id =>
      waitForChannel id
      let text ← written id
      modify fun machine => { machine with channels := machine.channels.setIfInBounds id .null }
      let source ← newChannel (.source text)
      runStages engine start (some source) goesOn (max finish (← get).clock) rest

/-- Runs a command in the background. -/
def runInBackground (engine : Engine) (command : Command) : ShellM Unit := do
  let process ← newProcess
  let start := (← get).clock
  modify fun machine => { machine with clock := start + 500 }
  let null ← newChannel .null
  let never : Nat := 1000000000000000
  let (status, finish) ← tryCatch
    (do
      let status ← withDescriptors (connected 0 null) (inFullSubshell engine (engine.command false command))
      return (status, (← get).clock))
    fun stop => do
      match stop with
      | .forever => return (0, never)
      | stop => throw stop
  let shell ← theShell
  let held := [1, 2].filterMap fun descriptor => shell.descriptors.lookup descriptor
  let free := match command with
    | .redirected _ _ redirections => redirections
    | .simple _ _ _ redirections => redirections
    | _ => []
  let isFree (descriptor : Nat) : Bool := free.any fun
    | .file other _ _ => other = descriptor
    | .duplicate other _ => other = descriptor
    | .here other _ => other = descriptor
  let holds := if isFree 1 && isFree 2 then [] else held.map fun id => (id, process, finish)
  modify fun machine => { machine with clock := start, holds := holds ++ machine.holds }
  modifyShell fun shell =>
    { shell with jobs := ⟨process, finish, .status status⟩ :: shell.jobs, status := 0 }

/-- One round of a loop after which it may be over: what the rounds inside of it make of a stop. -/
def runRound (engine : Engine) (tested : Bool) (body : Script) : ShellM Bool := do
  let loops := (← theShell).loops
  modifyShell fun shell => { shell with loops := loops + 1 }
  let restore := modifyShell fun shell => { shell with loops }
  let goesOn ← tryCatch
    (do
      body.forM (engine.command tested)
      return true)
    fun stop => do
      restore
      match stop with
      | .leave 1 => return false
      | .leave (n + 1) => throw (.leave n)
      | .next 1 => return true
      | .next (n + 1) => throw (.next n)
      | stop => throw stop
  restore
  return goesOn

/-- Runs commands whose last status is looked at; whether they succeeded. A loop that is left there is left. -/
def runCondition (engine : Engine) (condition : Script) : ShellM Bool := do
  condition.forM (engine.command true)
  return (← theShell).status = 0

/-- The body of the first branch of which a pattern fits. -/
def chosenBranch (engine : Engine) (text : Octets) : List (List Word × Script) → ShellM (Option Script)
  | [] => return none
  | (patterns, body) :: rest => do
    if ← patterns.anyM fun pattern => do return (← expandPattern engine pattern).accepts text then return some body
    else chosenBranch engine text rest

/-- The parts of a chain after the first command. -/
def runLinks (engine : Engine) (tested : Bool) : List (Bool × Command) → ShellM Unit
  | [] => return ()
  | (onSuccess, command) :: rest => do
    if onSuccess = ((← theShell).status = 0) then
      engine.command (tested || !rest.isEmpty) command
    runLinks engine tested rest

/-- How many rounds a loop may have. -/
def greatestRounds : Nat := 1000000

/-- Runs a command. Where its status is looked at, a failure is nothing to stop at. -/
def runOne (engine : Engine) (tested : Bool) (command : Command) : ShellM Unit := do
  if ← hasSetting 'n' then return ()
  match command with
  | .simple line assignments words redirections =>
    runSimple engine tested line assignments words redirections
    checkFailure tested
  | .pipeline negated stages =>
    let start := (← get).clock
    match stages with
    | [only] => engine.command (tested || negated) only
    | stages => setStatus (← runStages engine start none false start stages)
    if negated then setStatus (if (← theShell).status = 0 then 1 else 0)
    else checkFailure tested
  | .chain first rest =>
    engine.command true first
    runLinks engine tested rest
  | .background command =>
    runInBackground engine command
  | .subshell body =>
    setStatus (← inFullSubshell engine (body.forM (engine.command tested)))
    checkFailure tested
  | .group body => body.forM (engine.command tested)
  | .choice condition body otherwise =>
    if ← runCondition engine condition then body.forM (engine.command tested)
    else
      setStatus 0
      otherwise.forM (engine.command tested)
  | .loop whileTrue condition body =>
    setStatus (← loopFrom engine tested whileTrue condition body greatestRounds 0)
  | .each line name words body =>
    modifyShell fun shell => { shell with line }
    let values ← match words with
      | some words => expandFields engine words
      | none => do pure (← theShell).parameters
    setStatus 0
    eachFrom engine tested name body values
  | .select line word branches =>
    modifyShell fun shell => { shell with line }
    let text ← expandText engine word
    match ← chosenBranch engine text branches with
    | some body =>
      setStatus 0
      body.forM (engine.command tested)
    | none => setStatus 0
  | .define name body =>
    modifyShell fun shell =>
      { shell with functions := (name, body) :: shell.functions.filter fun entry => entry.1 != name, status := 0 }
  | .redirected line command redirections =>
    modifyShell fun shell => { shell with line }
    redirecting engine redirections (fun _ => checkFailure tested) (engine.command tested command)
where
  /-- The rounds of a loop for each value. -/
  eachFrom (engine : Engine) (tested : Bool) (name : Octets) (body : Script) : List Octets → ShellM Unit
    | [] => return ()
    | value :: rest => do
      setVariable name value
      if ← runRound engine tested body then eachFrom engine tested name body rest
  /-- The rounds of a loop with a condition, at most `fuel`; the status of the last one. -/
  loopFrom (engine : Engine) (tested whileTrue : Bool) (condition body : Script) : (fuel status : Nat) → ShellM Nat
    | 0, _ => throw .forever
    | fuel + 1, status => do
      let holds ← runRoundCondition engine condition
      match holds with
      | none => return (← theShell).status
      | some holds =>
        if holds = whileTrue then
          if ← runRound engine tested body then loopFrom engine tested whileTrue condition body fuel (← theShell).status
          else return (← theShell).status
        else return status
  /-- Whether the condition of a loop holds; nothing if the loop is left there. -/
  runRoundCondition (engine : Engine) (condition : Script) : ShellM (Option Bool) := do
    let loops := (← theShell).loops
    modifyShell fun shell => { shell with loops := loops + 1 }
    let restore := modifyShell fun shell => { shell with loops }
    let holds ← tryCatch (some <$> runCondition engine condition) fun stop => do
      restore
      match stop with
      | .leave 1 => return none
      | .leave (n + 1) => throw (.leave n)
      | .next (n + 1) => if n = 0 then return none else throw (.next n)
      | stop => throw stop
    restore
    return holds

/-- What runs commands that are nested to some depth. -/
def engineOf : (depth : Nat) → Engine
  | 0 => ⟨fun _ _ => throw .forever, fun _ => throw .forever, fun _ => throw .forever⟩
  | depth + 1 =>
    let inner := engineOf depth
    ⟨runOne inner, runProgram inner, wordAtoms inner⟩

end Utterance.Host.Shell
