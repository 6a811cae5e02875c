import Utterance.Host.Command.Columns
import Utterance.Host.Command.Condition
import Utterance.Host.Command.Dump
import Utterance.Host.Command.Echo
import Utterance.Host.Command.Edit
import Utterance.Host.Command.Names
import Utterance.Host.Command.Printf
import Utterance.Host.Command.Reading
import Utterance.Host.Command.Search
import Utterance.Host.Command.Sorting
import Utterance.Host.Command.Tree

/-!
# The commands of the host

Every command that does its work by itself, by its name.
-/

namespace Utterance.Host.Command
set_option autoImplicit false

/-- Succeeds. -/
def succeed (call : Call) : Outcome :=
  call.done 0 []

/-- Fails. -/
def failSilently (call : Call) : Outcome :=
  call.done 1 []

/-- Prints its arguments. -/
def echo (call : Call) : Outcome :=
  call.done 0 (Echo.standalone call.arguments)

/-- Prints its arguments as a format says. -/
def printf (call : Call) : Outcome :=
  let arguments := match call.arguments with
    | ['-', '-'] :: rest => rest
    | arguments => arguments
  match arguments with
  | [] => call.misused 1 (octets "missing operand")
  | format :: rest =>
    let (writes, status) := Printf.Printer.print ⟨.standalone, call.complaint⟩ format rest
    { status, writes, files := call.files, input := call.input }

/-- Prints the directory. -/
def pwd (call : Call) : Outcome :=
  let extra := call.arguments.any fun word => word.head? != some '-'
  call.done 0 ('/' :: joinWith ['/'] (call.place.map octets) ++ ['\n'])
    (if extra then call.complaint (octets "ignoring non-option arguments") else [])

/-- Prints variables of the environment. -/
def printenv (call : Call) : Outcome :=
  if call.arguments.isEmpty then call.done 0 (unlines (call.environment.map fun (name, value) => name ++ '=' :: value))
  else
    let values := call.arguments.filterMap fun name => call.environment.lookup name
    call.done (if values.length = call.arguments.length then 0 else 1) (unlines values)

/-- The commands by their names. -/
def table : List (String × (Call → Outcome)) :=
  [("true", succeed), ("false", failSilently), ("echo", echo), ("printf", printf), ("test", Condition.test),
   ("[", Condition.test), ("pwd", pwd), ("printenv", printenv), ("cat", cat), ("tac", tac), ("rev", rev),
   ("head", head), ("tail", tail), ("wc", wc), ("nl", nl), ("tee", tee), ("cut", cut), ("paste", paste), ("fold", fold),
   ("expand", expandTabs), ("tr", tr), ("uniq", uniq), ("sort", sort), ("comm", comm), ("od", od), ("base64", base64),
   ("ls", ls), ("mkdir", mkdir), ("rmdir", rmdir), ("rm", rm), ("touch", touch), ("cp", cp), ("mv", mv),
   ("basename", basename), ("dirname", dirname), ("seq", seq), ("sleep", sleep), ("yes", yes),
   ("grep", grep), ("expr", expr), ("sed", sed)]

/-- The commands that run others. -/
def wrappers : List String :=
  ["sh", "dash", "env", "xargs", "timeout", "nohup", "nice", "kill"]

/-- Whether there is a command of a name. -/
def isKnown (name : String) : Bool :=
  wrappers.contains name || table.any fun entry => entry.1 = name

/-- The directories that commands are in. -/
def directories : List (List String) :=
  [["usr", "bin"], ["bin"]]

end Utterance.Host.Command
