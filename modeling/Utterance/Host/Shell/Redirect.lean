import Utterance.Host.Shell.Expand

/-!
# Redirection

Descriptors can be led to files, to other descriptors and to texts, for one command or for the rest of a script.
-/

namespace Utterance.Host.Shell
set_option autoImplicit false

/-- Why a file cannot be opened. -/
def openReason (creating : Bool) : Target → String
  | .directory _ => "Is a directory"
  | .tooLong => "File name too long"
  | .file _ _ => "File exists"
  | _ => if creating then "Directory nonexistent" else "No such file"

/-- The descriptor that a name of a device stands for. -/
def deviceDescriptor? (name : Octets) : Option Nat :=
  match toText name with
  | "/dev/stdin" => some 0
  | "/dev/stdout" => some 1
  | "/dev/stderr" => some 2
  | text => if text.startsWith "/dev/fd/" then natural? (name.drop 8) else none

/-- Opens a file; why it failed if it did. -/
def openFile (mode : OpenMode) (name : Octets) : ShellM (Except Octets Nat) := do
  let creating := mode != .read
  let refused (reason : String) : ShellM (Except Octets Nat) :=
    return .error (octets (if creating then "cannot create " else "cannot open ") ++ name ++ octets (": " ++ reason))
  match deviceDescriptor? name with
  | some descriptor =>
    match ← channelOf descriptor with
    | some id => return .ok id
    | none => refused (openReason creating .missing)
  | none =>
    if name = octets "/dev/null" then return .ok (← newChannel .null)
    let store (names : List String) (bytes : Text.Bytes) : ShellM Unit :=
      modify fun machine => { machine with files := machine.files.put names bytes }
    let slash := name.getLast? = some '/'
    let noclobber ← hasSetting 'C'
    match ← find name, mode with
    | .file names _, .read => return .ok (← newChannel (.file names 0 false))
    | .directory _, .read => return .ok (← newChannel .null)
    | .file names bytes, .write =>
      if noclobber then refused (openReason creating (.file names bytes))
      else
        store names []
        return .ok (← newChannel (.file names 0 false))
    | .file names _, .clobber =>
      store names []
      return .ok (← newChannel (.file names 0 false))
    | .file names _, .append => return .ok (← newChannel (.file names 0 true))
    | .file names _, .readWrite => return .ok (← newChannel (.file names 0 false))
    | .free names, mode =>
      if slash && creating then refused (openReason creating (.directory names))
      else if creating then
        store names []
        return .ok (← newChannel (.file names 0 (mode = .append)))
      else refused (openReason creating .missing)
    | target, _ => refused (openReason creating target)

/-- The descriptors after a redirection; why it failed if it did. -/
def redirect (engine : Engine) (redirection : Redirection) : ShellM (Option Octets) := do
  let connect (descriptor id : Nat) : ShellM (Option Octets) := do
    modifyShell fun shell => { shell with descriptors := connected descriptor id shell.descriptors }
    return none
  match redirection with
  | .file descriptor mode target =>
    match ← openFile mode (← expandText engine target) with
    | .ok id => connect descriptor id
    | .error text => return some text
  | .duplicate descriptor target =>
    let word ← expandText engine target
    if word = ['-'] then
      modifyShell fun shell =>
        { shell with descriptors := shell.descriptors.filter fun entry => entry.1 != descriptor }
      return none
    else
      match word with
      | [c] =>
        if c.isDigit then
          match ← channelOf (c.toNat - '0'.toNat) with
          | some id => connect descriptor id
          | none => return some (word ++ octets ": Bad file descriptor")
        else giveUp (octets "Syntax error: Bad fd number")
      | _ => giveUp (octets "Syntax error: Bad fd number")
  | .here descriptor body =>
    connect descriptor (← newChannel (.source (atomsText (← engine.atoms body))))

/-- Follows redirections until one fails. -/
def redirectAll (engine : Engine) : List Redirection → ShellM (Option Octets)
  | [] => return none
  | redirection :: rest => do
    match ← redirect engine redirection with
    | none => redirectAll engine rest
    | some text => return some text

/-- Follows redirections while something is done. If one fails, there is a complaint and a status. -/
def redirecting (engine : Engine) (redirections : List Redirection) (failing : Nat → ShellM Unit)
    (work : ShellM Unit) : ShellM Unit :=
  if redirections.isEmpty then work
  else withDescriptors id do
    let before := (← theShell).descriptors
    match ← redirectAll engine redirections with
    | none => work
    | some text =>
      modifyShell fun shell => { shell with descriptors := before }
      complain text
      setStatus 2
      failing 2

end Utterance.Host.Shell
