import Utterance.CommandLine.Run
import Utterance.Host.Spawn
import Utterance.Text.Encoding.Known

/-!
# The command

Loads the files that the arguments name, runs the command on them, stores what it changed and prints what it prints. Its
tools are those of the host, and its parser needs no building.
-/

namespace Utterance.CommandLine
set_option autoImplicit false

/-- The names that lead from the root to a path that is followed from some place. -/
def absoluteNames (place : List String) (path : Path) : List String :=
  if path.root.isEmpty then place ++ path.names else path.names

/-- A path from the root, as the system reads it. -/
def systemPath (names : List String) : String :=
  "/" ++ "/".intercalate names

/-- The paths that a run may read or write, after the directories they are in. -/
def Options.paths (options : Options) : List Path :=
  let written := options.output.toList.flatMap fun output =>
    let toolchain : Toolchain := { base := Path.ofText output }
    Toolchain.extensions.filterMap fun extension => (toolchain.pathFor extension).toOption
  let paths := Path.ofText options.file :: written
  paths.map (fun path => { path with names := path.names.dropLast }) ++ paths

/-- A store with what the system has at some place: a file, a directory or nothing. -/
def load (store : FileStore) (names : List String) : IO FileStore := do
  try
    return store.withFile names (← IO.FS.readBinFile (systemPath names)).toList
  catch _ =>
    try
      if ← (← IO.FS.realPath (systemPath names)).isDir then return store.withDirectory names else return store
    catch _ => return store

/-- The part of the system's files that the arguments are about. -/
def snapshot (arguments : List String) : IO FileStore := do
  let place := (Path.ofText (← IO.currentDir).toString).names
  let mut store := FileStore.empty place
  if let .ok options := Options.parse arguments then
    for path in options.paths do
      store ← load store (absoluteNames place path)
  return store

/-- Writes the files that a run has changed. -/
def save (before after : FileStore) : IO Unit := do
  for (names, bytes) in after.files do
    if before.files.lookup names != some bytes then
      IO.FS.writeBinFile (systemPath names) ⟨bytes.toArray⟩

/-- The machine that the command runs on. -/
def hostMachine : Machine Unit FileStore where
  runner := .subprocess Host.spawn {}
  buildParser files := (files, .ok ())

/-- The colour settings of the system. -/
def systemColour : IO ColourSettings := do
  return ⟨← IO.getEnv "NO_COLOR", ← IO.getEnv "JULIUSGRAM_COLOR"⟩

end Utterance.CommandLine

open Utterance
open scoped Workstation

/-- Runs the command on the system's files. -/
def main (arguments : List String) : IO UInt32 := do
  let files ← CommandLine.snapshot arguments
  let colour := (← CommandLine.systemColour).enabled
  let outcome := CommandLine.run CommandLine.hostMachine colour { files, tools := () } arguments
  CommandLine.save files outcome.workspace.files
  (← IO.getStdout).putStr outcome.stdout
  (← IO.getStderr).putStr outcome.stderr
  match outcome.ending with
  | .ok status => return UInt32.ofNat status.toNat
  | .error crash =>
    (← IO.getStderr).putStr (crash.message ++ "\n")
    return 1
