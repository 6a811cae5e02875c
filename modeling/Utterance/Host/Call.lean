import Utterance.FileStore
import Utterance.Host.Quoting

/-!
# Calls of commands

A command is called by its name with arguments, in a directory of the file store, with a text to read. It ends with a
status, has written to its two outputs, may have changed files and has left some of its input, after some time.
-/

namespace Utterance.Host
set_option autoImplicit false

/-- The outputs of a command. -/
inductive Stream where
  | stdout
  | stderr
  deriving DecidableEq, Repr, Inhabited

/-- What a command is given. -/
structure Call where
  name : Octets
  arguments : List Octets
  files : FileStore
  place : List String
  input : Octets := []
  /-- whether the input is a file, of which a command can give back what it does not use -/
  rereadable : Bool := false
  environment : List (Octets × Octets) := []
  deriving Inhabited

/-- What a command leaves. The time is in millionths of a second. -/
structure Outcome where
  status : Nat := 0
  writes : List (Stream × Octets) := []
  files : FileStore
  input : Octets
  time : Nat := 0
  /-- whether more would be written as long as it is read -/
  endless : Bool := false
  deriving Inhabited

namespace Call

/-- The end of a command that wrote its complaints before all else. -/
def done (call : Call) (status : Nat) (stdout : Octets) (stderr : Octets := []) : Outcome :=
  { status, writes := [(.stderr, stderr), (.stdout, stdout)], files := call.files, input := call.input }

/-- A complaint of a command, as a line. -/
def complaint (call : Call) (text : Octets) : Octets :=
  call.name ++ octets ": " ++ text ++ ['\n']

/-- The end of a command with a complaint. -/
def fail (call : Call) (status : Nat) (text : Octets) : Outcome :=
  call.done status [] (call.complaint text)

/-- The line that sends a user to the help of a command. -/
def helpLine (call : Call) : Octets :=
  octets "Try '" ++ call.name ++ octets " --help' for more information.\n"

/-- The end of a command that was called wrongly. -/
def misused (call : Call) (status : Nat) (text : Octets) : Outcome :=
  call.done status [] (call.complaint text ++ call.helpLine)

/-- Directories that are on every host. -/
def hostDirectories : List (List String) :=
  [["bin"], ["dev"], ["etc"], ["home"], ["lib"], ["opt"], ["proc"], ["root"], ["sbin"], ["sys"], ["tmp"], ["usr"],
   ["usr", "bin"], ["usr", "lib"], ["usr", "local"], ["usr", "local", "bin"], ["usr", "sbin"], ["usr", "share"],
   ["var"], ["var", "tmp"]]

/-- What a name leads to. -/
def find (call : Call) (name : Octets) : Target :=
  if name.isEmpty then .missing
  else
    let path := Path.ofText (toText name)
    match call.files.findFrom call.place path with
    | .file names bytes => if name.getLast? = some '/' then .belowFile else .file names bytes
    | .directory names => .directory names
    | target =>
      if path.root.isEmpty then target
      else if path.names == ["dev", "null"] then .file path.names []
      else if hostDirectories.contains path.names then .directory path.names
      else target

end Call

/-- What the system says about a target that is not what it should be. -/
def targetMessage : Target → String
  | .file _ _ => "File exists"
  | .directory _ => "Is a directory"
  | .belowFile => "Not a directory"
  | .tooLong => "File name too long"
  | _ => "No such file or directory"

/-- A text to be read: what it is called, and its contents or the target that could not be read. -/
structure Source where
  label : Octets
  contents : Except Target Octets
  deriving Inhabited

namespace Call

/-- The texts that operands name, in order. A dash is the input, which can be read once. -/
def sourcesFrom (call : Call) : (input : Octets) → List Octets → List Source
  | _, [] => []
  | input, ['-'] :: rest => ⟨['-'], .ok input⟩ :: call.sourcesFrom [] rest
  | input, name :: rest =>
    let contents := match call.find name with
      | .file _ bytes => .ok (ofBytes bytes)
      | target => .error target
    ⟨name, contents⟩ :: call.sourcesFrom input rest

/-- The texts that operands name; the input if there are none. -/
def sources (call : Call) (operands : List Octets) : List Source :=
  call.sourcesFrom call.input (if operands.isEmpty then [['-']] else operands)

/-- The call after it has read the input, if its operands make it do so. -/
def afterReading (call : Call) (operands : List Octets) : Call :=
  if operands.isEmpty || operands.contains ['-'] then { call with input := [] } else call

end Call

end Utterance.Host
