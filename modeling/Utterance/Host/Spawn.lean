import Utterance.Host.Launch
import Utterance.Toolchain.Tool

/-!
# Starting processes

A spawner for the commands of the host on a file store. A command is found by its name in a directory, runs to its end,
and what it printed is read as UTF-8.
-/

namespace Utterance.Host
set_option autoImplicit false

/-- The message for a missing file. -/
def missing (name : String) : Spawned :=
  .notFound (AccessFault.notFound.naming name).message

/-- What a command printed, every kind of newline as a line feed. -/
def printed (bytes : Text.Bytes) : Except SystemFault String :=
  match Text.Encoding.utf8.decode bytes with
  | .ok text => .ok (String.ofList (Text.unifyNewlines text.toList))
  | .error fault => .error (.undecodable fault.message)

/-- Whether a command took too long. No time at all is always too short. -/
def expired (launcher : Launcher) (seconds : Decimal) : Bool :=
  launcher.timeout.any fun limit => limit.digits ≤ 0 || limit.less seconds

/-- How a command ended that ran. -/
def finished (launcher : Launcher) (output : Finished) : Spawned :=
  if expired launcher output.seconds then .timedOut
  else
    match printed output.stdout, printed output.stderr with
    | .error fault, _ => .failed fault
    | _, .error fault => .failed fault
    | .ok stdout, .ok stderr => .completed output.status stdout stderr

/-- Whether a name leads to a directory wherever commands are searched. -/
def namesDirectory (name : String) : Bool :=
  name = "" || name = "." || name = ".."

/-- The most bytes of one word of a command. -/
def wordLimit : Nat := 131071

/-- The most bytes of all words of a command, with an end mark each. -/
def commandLimit : Nat := 2097152

/-- Whether words are more than a command can be given. -/
def isTooMuch (args : List String) : Bool :=
  args.any (fun word => wordLimit < word.utf8ByteSize) ||
    commandLimit < args.foldl (fun total word => total + word.utf8ByteSize + 1) 0

/-- The command is a file that is no program. -/
def notExecutable (name : String) : SystemFault :=
  .refused "not executable" ("[Errno 13] Permission denied: " ++ Text.quoted name)

/-- The command is given more text than commands can be given. -/
def argumentsTooLong (name : String) : SystemFault :=
  .refused "too much text" ("[Errno 7] Argument list too long: " ++ Text.quoted name)

/-- Starts a command in a directory: the files after it and how it ended. -/
def start (launcher : Launcher) (files : FileStore) (place : List String) (name : String) (words : List String) :
    FileStore × Spawned :=
  if namesDirectory name then (files, .failed (notExecutable name))
  else if !name.toList.contains '/' && nameLimit < name.utf8ByteSize then
    (files, .failed (AccessFault.nameTooLong.naming name))
  else
    match program? files place name with
    | .ok program =>
      if isTooMuch (name :: words) then (files, .failed (argumentsTooLong name))
      else
        let output := launch files place program name words
        (output.files, finished launcher output)
    | .error target =>
      (files, match target with
        | .file _ _ => .failed (notExecutable name)
        | .directory _ => .failed (notExecutable name)
        | .belowFile => .failed (AccessFault.notDirectory.naming name)
        | .tooLong => .failed (AccessFault.nameTooLong.naming name)
        | _ => missing name)

/-- Starts a command with its arguments in the directory of a launcher. -/
def spawn : Spawner FileStore
  | _, files, [] => (files, .failed noCommand)
  | launcher, files, name :: words =>
    if (name :: words).any Text.hasNull || launcher.directory.any Text.hasNull then (files, .failed nullByte)
    else
      match launcher.directory with
      | none => start launcher files files.workingDirectory name words
      | some "" => (files, missing "")
      | some directory =>
        match files.find (Path.ofText directory) with
        | .directory place => start launcher files place name words
        | .file _ _ => (files, .failed (AccessFault.notDirectory.naming directory))
        | .belowFile => (files, .failed (AccessFault.notDirectory.naming directory))
        | .tooLong => (files, .failed (AccessFault.nameTooLong.naming directory))
        | _ => (files, missing directory)

end Utterance.Host
