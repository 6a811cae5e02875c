import Utterance.Host.Call
import Utterance.Host.Shell.Arithmetic
import Utterance.Host.Shell.Pattern

/-!
# The machine that runs scripts

A machine has files, a clock and channels, and the shell that is running on it. A subshell starts as a copy of its
shell; files, clock and channels are shared. Time passes only where a command waits. Everything that is written carries
the time when it was written, so that what runs in the background comes in between.
-/

namespace Utterance.Host.Shell
set_option autoImplicit false

/-- What a descriptor leads to. -/
inductive Channel where
  | null
  /-- what was written and when, last first -/
  | sink (chunks : List (Nat × Octets))
  /-- what is left to read -/
  | source (text : Octets)
  | file (names : List String) (offset : Nat) (appends : Bool)
  deriving Inhabited

/-- A variable, which may be declared without a value. -/
structure Variable where
  value : Option Octets := none
  exported : Bool := false
  fixed : Bool := false
  deriving DecidableEq, Repr, Inhabited

/-- How a program ended. -/
inductive Ending where
  | status (n : Nat)
  | signal (n : Nat)
  deriving DecidableEq, Repr, Inhabited

/-- A command that runs in the background, or has run there. -/
structure Job where
  process : Nat
  finish : Nat
  ending : Ending
  deriving DecidableEq, Repr, Inhabited

/-- What a shell knows and has set up. -/
structure State where
  name : Octets := octets "sh"
  process : Nat := 1000
  parameters : List Octets := []
  bindings : List (Octets × Variable) := []
  functions : List (Octets × Command) := []
  aliases : List (Octets × Octets) := []
  /-- the letters of the options that are on -/
  settings : Octets := []
  status : Nat := 0
  line : Nat := 0
  /-- who complains: nobody, or a builtin -/
  speaker : Octets := []
  place : List String := []
  descriptors : List (Nat × Nat) := []
  /-- the actions for signals; an empty action ignores its signal -/
  traps : List (Nat × Octets) := []
  jobs : List Job := []
  /-- the variables to be restored when the functions end, innermost first -/
  saved : List (List (Octets × Option Variable)) := []
  loops : Nat := 0
  calls : Nat := 0
  /-- the status of the last command whose output was substituted -/
  substituted : Option Nat := none
  /-- how far the option cluster has been read that is being read -/
  cluster : Nat := 0
  deriving Inhabited

/-- A machine. -/
structure Machine where
  files : FileStore
  /-- the time in millionths of a second -/
  clock : Nat := 0
  channels : Array Channel := #[]
  /-- the channels that processes in the background hold open, and until when -/
  holds : List (Nat × Nat × Nat) := []
  /-- how many commands may still run before the script counts as one that never ends -/
  budget : Nat := 100000
  processes : Nat := 1001
  shell : State := {}
  deriving Inhabited

/-- Why a script does not go on with the next command. -/
inductive Stop where
  | exit (status : Nat)
  /-- some loops are left -/
  | leave (levels : Nat)
  /-- some loops are left but for the last, which goes on with its next round -/
  | next (levels : Nat)
  | back (status : Nat)
  /-- a shell is ended by a signal -/
  | signal (process n : Nat)
  /-- nothing will ever happen -/
  | forever
  deriving DecidableEq, Repr, Inhabited

/-- Running a script. -/
abbrev ShellM := EStateM Stop Machine

/-- A character of an expanded word, a boundary between fields, or quotes with nothing between them. -/
inductive Atom where
  | letter (c : Char) (quoted splits : Bool)
  | boundary
  | quotes
  deriving DecidableEq, Repr, Inhabited

/-- What is needed to run what is inside of a command. -/
structure Engine where
  command : (tested : Bool) → Command → ShellM Unit
  program : List Octets → ShellM Ending
  atoms : Word → ShellM (List Atom)

/-! ## The shell -/

/-- The shell. -/
def theShell : ShellM State := do
  return (← get).shell

/-- Changes the shell. -/
def modifyShell (change : State → State) : ShellM Unit :=
  modify fun machine => { machine with shell := change machine.shell }

/-- Sets the status. -/
def setStatus (status : Nat) : ShellM Unit :=
  modifyShell fun shell => { shell with status }

/-- Whether an option is on. -/
def hasSetting (letter : Char) : ShellM Bool := do
  return (← theShell).settings.contains letter

/-- What a name leads to. -/
def find (name : Octets) : ShellM Target := do
  let machine ← get
  return ({ name := [], arguments := [], files := machine.files, place := machine.shell.place : Call }).find name

/-! ## Channels -/

/-- The channel of a descriptor. -/
def channelOf (descriptor : Nat) : ShellM (Option Nat) := do
  return (← theShell).descriptors.lookup descriptor

/-- A new channel. -/
def newChannel (channel : Channel) : ShellM Nat := modifyGet fun machine =>
  (machine.channels.size, { machine with channels := machine.channels.push channel })

/-- Bytes with others in their place from some position on. -/
def overwritten (bytes : Text.Bytes) (offset : Nat) (text : Text.Bytes) : Text.Bytes :=
  bytes.take offset ++ List.replicate (offset - bytes.length) 0 ++ text ++ bytes.drop (offset + text.length)

/-- The channel and the files after something is written. A file that is gone takes nothing. -/
def Channel.put (channel : Channel) (files : FileStore) (clock : Nat) (text : Octets) : Channel × FileStore :=
  match channel with
  | .sink chunks => (.sink ((clock, text) :: chunks), files)
  | .file names offset appends =>
    match files.files.lookup names with
    | none => (channel, files)
    | some bytes =>
      let offset := if appends then bytes.length else offset
      (.file names (offset + text.length) appends, files.put names (overwritten bytes offset (toBytes text)))
  | channel => (channel, files)

/-- Writes to a descriptor. -/
def write (descriptor : Nat) (text : Octets) : ShellM Unit := do
  if text.isEmpty then return ()
  match ← channelOf descriptor with
  | none => return ()
  | some id => modify fun machine =>
    let (channel, files) := (machine.channels[id]?.getD .null).put machine.files machine.clock text
    { machine with channels := machine.channels.setIfInBounds id channel, files }

/-- What is left to read from a descriptor. -/
def pending (descriptor : Nat) : ShellM Octets := do
  match ← channelOf descriptor with
  | none => return []
  | some id =>
    let machine ← get
    match machine.channels[id]?.getD .null with
    | .source text => return text
    | .file names offset _ => return ofBytes (((machine.files.files.lookup names).getD []).drop offset)
    | _ => return []

/-- Reads from a descriptor as much as leaves only some characters. -/
def leavePending (descriptor left : Nat) : ShellM Unit := do
  match ← channelOf descriptor with
  | none => return ()
  | some id => modify fun machine =>
    let channel := match machine.channels[id]?.getD .null with
      | .source text => .source (text.drop (text.length - left))
      | .file names offset appends =>
        let size := ((machine.files.files.lookup names).getD []).length
        .file names (max offset (size - left)) appends
      | channel => channel
    { machine with channels := machine.channels.setIfInBounds id channel }

/-- All that was written to a channel, by the time of writing. -/
def written (id : Nat) : ShellM Octets := do
  match (← get).channels[id]?.getD .null with
  | .sink chunks => return ((chunks.reverse.mergeSort fun a b => decide (a.1 ≤ b.1)).map Prod.snd).flatten
  | _ => return []

/-- Lets descriptors lead somewhere while something is done, and lets them lead back afterwards. -/
def withDescriptors {α : Type} (change : List (Nat × Nat) → List (Nat × Nat)) (work : ShellM α) : ShellM α := do
  let descriptors := (← theShell).descriptors
  modifyShell fun shell => { shell with descriptors := change shell.descriptors }
  let restore := modifyShell fun shell => { shell with descriptors }
  let result ← tryCatch work fun stop => do
    restore
    throw stop
  restore
  return result

/-- Descriptors of which one leads to a channel. -/
def connected (descriptor id : Nat) (descriptors : List (Nat × Nat)) : List (Nat × Nat) :=
  (descriptor, id) :: descriptors.filter fun entry => entry.1 != descriptor

/-! ## Complaints -/

/-- Writes a complaint of the shell. -/
def complain (text : Octets) : ShellM Unit := do
  let shell ← theShell
  write 2 (shell.name ++ octets ": " ++ digitsOf 10 shell.line ++ octets ": " ++ shell.speaker ++ text ++ ['\n'])

/-- Ends the shell with a complaint. -/
def giveUp {α : Type} (text : Octets) (status : Nat := 2) : ShellM α := do
  complain text
  throw (.exit status)

/-! ## Variables -/

/-- A variable. -/
def variableOf (name : Octets) : ShellM (Option Variable) := do
  return (← theShell).bindings.lookup name

/-- Puts a variable in place of one of the same name. -/
def putVariable (name : Octets) (new : Option Variable) : ShellM Unit := modifyShell fun shell =>
  let others := shell.bindings.filter fun entry => entry.1 != name
  { shell with
    bindings := match new with
      | some new => (name, new) :: others
      | none => others }

/-- Sets a variable. -/
def setVariable (name value : Octets) : ShellM Unit := do
  let old := (← variableOf name).getD {}
  if old.fixed then giveUp (name ++ octets ": is read only")
  putVariable name (some { old with value := some value, exported := old.exported || (← hasSetting 'a') })

/-- The value of a variable. -/
def valueOf (name : Octets) : ShellM (Option Octets) := do
  return (← variableOf name).bind Variable.value

/-- The characters that separate fields. -/
def separators : ShellM Octets := do
  match ← variableOf (octets "IFS") with
  | some found => return found.value.getD (octets " \t\n")
  | none => return octets " \t\n"

/-- The variables that programs are given. -/
def environment (shell : State) : List (Octets × Octets) :=
  shell.bindings.reverse.filterMap fun (name, found) =>
    if found.exported then found.value.map fun value => (name, value) else none

/-! ## Subshells -/

/-- A shell as its subshells find it: only ignored signals stay ignored. -/
def State.child (shell : State) : State :=
  { shell with traps := shell.traps.filter fun entry => entry.2.isEmpty, loops := 0, jobs := [] }

/-- Runs something in a copy of the shell; its status. A signal reaches the shell itself. -/
def inSubshell (work : ShellM Unit) : ShellM Nat := do
  let shell ← theShell
  modifyShell State.child
  let restore := modifyShell fun _ => shell
  let status ← tryCatch
    (do
      work
      return (← theShell).status)
    fun stop => do
      match stop with
      | .exit status => return status
      | .back status => return status
      | .leave _ => return 0
      | .next _ => return 0
      | stop =>
        restore
        throw stop
  restore
  return status

/-- Waits until a time. -/
def waitUntil (time : Nat) : ShellM Unit :=
  modify fun machine => { machine with clock := max machine.clock time }

/-- Waits until nothing holds a channel. -/
def waitForChannel (id : Nat) : ShellM Unit := do
  for (channel, _, time) in (← get).holds do
    if channel = id then waitUntil time

/-- A number for a new process. -/
def newProcess : ShellM Nat := modifyGet fun machine =>
  (machine.processes, { machine with processes := machine.processes + 1 })

end Utterance.Host.Shell
