import Utterance.Decimal
import Utterance.Host.Shell.Run

/-!
# Launching programs

A program is started in a directory with nothing to read, and runs to its end. What it wrote, how it ended, how long it
took and the files after it are the result.
-/

namespace Utterance.Host
set_option autoImplicit false

/-- What a program left. A signal that ended it is a negative status. -/
structure Finished where
  status : Int
  stdout : Text.Bytes
  stderr : Text.Bytes
  seconds : Decimal
  files : FileStore
  deriving Inhabited

/-- How deep commands may be nested. -/
def greatestDepth : Nat := 6000

/-- The variables that programs are started with. -/
def startEnvironment : List (Octets × Octets) :=
  [(octets "HOME", octets "/root"),
   (octets "PATH", octets "/usr/local/sbin:/usr/local/bin:/usr/sbin:/usr/bin:/sbin:/bin"),
   (octets "LC_CTYPE", octets "C.UTF-8")]

/-- The machine before a program is started. -/
def startMachine (files : FileStore) (place : List String) : Shell.Machine where
  files := files
  channels := #[.source [], .sink [], .sink []]
  shell := {
    place, descriptors := [(0, 0), (1, 1), (2, 2)],
    bindings := startEnvironment.map fun (name, value) => (name, { value := some value, exported := true }) }

/-- The path that a word leads to as a program, or why there is none. -/
def program? (files : FileStore) (place : List String) (word : String) : Except Target String :=
  match (Shell.resolve (octets word)).run (startMachine files place) with
  | .ok found _ => found
  | .error _ _ => .error .missing

/-- A time that no program takes that ends. -/
def never : Decimal := ⟨1000000000000, 0⟩

/-- Starts a known program. -/
def launch (files : FileStore) (place : List String) (name word : String) (arguments : List String) : Finished :=
  let work : Shell.ShellM Shell.Ending := do
    let ending ← Shell.runKnown (Shell.engineOf greatestDepth) name (octets word) (arguments.map octets)
    Shell.waitForChannel 1
    Shell.waitForChannel 2
    return ending
  let finish (status : Int) (seconds : Option Decimal) (machine : Shell.Machine) : Finished :=
    let text (id : Nat) : Text.Bytes := match (Shell.written id).run machine with
      | .ok text _ => toBytes text
      | .error _ _ => []
    { status, stdout := text 1, stderr := text 2, seconds := seconds.getD ⟨machine.clock, 6⟩, files := machine.files }
  match work.run (startMachine files place) with
  | .ok (.status n) machine => finish n none machine
  | .ok (.signal n) machine => finish (-n) none machine
  | .error (.signal _ n) machine => finish (-n) none machine
  | .error (.exit n) machine => finish n none machine
  | .error _ machine => finish 0 (some never) machine

end Utterance.Host
