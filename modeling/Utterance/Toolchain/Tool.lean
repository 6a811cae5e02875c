import Utterance.Decimal
import Utterance.Text.Codec

/-!
# External tools

A tool is a command with arguments that is run to its end. Whatever runs commands is a `Runner`. The usual one starts
processes, which is up to the machine and left open as a `Spawner`: a command that cannot be found, or takes too long,
counts as a tool that failed, and whatever else goes wrong is passed on. Results can also be given beforehand, in which
case every call is written down and nothing is started.
-/

namespace Utterance
set_option autoImplicit false

/-- What running a tool gave. -/
structure ToolResult where
  args : List String
  status : Int
  stdout : String := ""
  stderr : String := ""
  deriving DecidableEq, Repr, Inhabited

/-- Whether the tool did its work. -/
def ToolResult.ok (result : ToolResult) : Bool := result.status == 0

/-- Whatever runs commands (`ToolRunner`), from a state `σ` of its own and on files `φ`. -/
structure Runner (σ φ : Type) where
  /-- whether a verbose run says that a command is about to be started -/
  announces : Bool
  /-- the state and the files after a command, and its result -/
  run : σ → φ → List String → σ × φ × Except SystemFault ToolResult

/-- How starting a process ended. -/
inductive Spawned where
  | completed (status : Int) (stdout stderr : String)
  /-- the command, or the directory to run it in, is missing -/
  | notFound (message : String)
  | timedOut
  | failed (fault : SystemFault)
  deriving DecidableEq, Repr, Inhabited

/-- How tools are started: the directory they run in and how many seconds they may take. -/
structure Launcher where
  directory : Option String := none
  timeout : Option Decimal := some ⟨300, 0⟩
  deriving DecidableEq, Repr, Inhabited

/-- Whatever starts processes: the files after a command was given to it, and how that ended. -/
abbrev Spawner (φ : Type) := Launcher → φ → List String → φ × Spawned

/-- The limit on the time as text. -/
def Launcher.limit (launcher : Launcher) : String :=
  launcher.timeout.elim "None" Decimal.text

/-- The result of a command that was given to be started, with its name first among its words. -/
def Launcher.result (launcher : Launcher) (name : String) (args : List String) :
    Spawned → Except SystemFault ToolResult
  | .completed status stdout stderr => .ok { args, status, stdout, stderr }
  | .notFound message => .ok { args, status := 127, stderr := name ++ ": command not found (" ++ message ++ ")" }
  | .timedOut => .ok { args, status := 124, stderr := name ++ ": timed out after " ++ launcher.limit ++ "s" }
  | .failed fault => .error fault

/-- There is no command to start. -/
def noCommand : SystemFault := .other "no command" "list index out of range"

namespace Runner

/-- Commands are started as processes (`SubprocessToolRunner`). -/
def subprocess {φ : Type} (spawn : Spawner φ) (launcher : Launcher) : Runner Unit φ where
  announces := true
  run _ files args :=
    match args with
    | [] => ((), files, .error noCommand)
    | name :: _ =>
      let (files, spawned) := spawn launcher files args
      ((), files, launcher.result name args spawned)

/-- A result that is given beforehand. -/
structure Canned where
  status : Int := 0
  stdout : String := ""
  stderr : String := ""
  deriving DecidableEq, Repr, Inhabited

/-- Results that are given beforehand, and the calls so far. -/
structure Script where
  results : List Canned
  calls : List (List String) := []
  deriving DecidableEq, Repr, Inhabited

/-- Results are taken from a script. When none is left, the tool succeeds silently. -/
def scripted {φ : Type} : Runner Script φ where
  announces := false
  run script files args :=
    let result := script.results.headD {}
    (⟨script.results.tail, script.calls ++ [args]⟩, files, .ok ⟨args, result.status, result.stdout, result.stderr⟩)

end Runner

end Utterance
