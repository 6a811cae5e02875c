import Utterance.FileSystem
import Utterance.Session
import Utterance.Toolchain.Tool

/-!
# The toolchain

The files of one grammar share a base name (`GrammarToolchain`). The vocabulary and the grammar are written from a
session, the vocabulary first; one tool turns them into an automaton and another says sample sentences from it. The tool
is run only after both files are written. Whatever runs commands can run the tools.
-/

namespace Utterance
set_option autoImplicit false

/-- The files and the state of what runs the tools. -/
structure Workspace (σ φ : Type) where
  files : φ
  tools : σ
  deriving DecidableEq, Repr, Inhabited

/-- Why a step of the toolchain failed. -/
inductive ToolchainFault where
  /-- the base name has no neighbour of some extension -/
  | naming (fault : Path.Fault)
  /-- a file could not be used -/
  | file (fault : SystemFault)
  /-- a command could not be tried -/
  | launch (fault : SystemFault)
  deriving DecidableEq, Repr, Inhabited

/-- What is said about it. -/
def ToolchainFault.message : ToolchainFault → String
  | .naming fault => fault.message
  | .file fault => fault.message
  | .launch fault => fault.message

/-- The base name of the files, the two commands and the encoding (`GrammarToolchain`). -/
structure Toolchain where
  base : Path
  compileCommand : String := "mkdfa.pl"
  sampleCommand : String := "generate"
  encoding : String := "utf-8"
  deriving DecidableEq, Repr, Inhabited

namespace Toolchain

/-- The extension of vocabulary files. -/
def vocabularyExtension : String := ".voca"

/-- The extension of grammar files. -/
def grammarExtension : String := ".grammar"

/-- The extensions of all files of a grammar. -/
def extensions : List String := [vocabularyExtension, grammarExtension, ".dfa", ".dict", ".term"]

/-- The file with some extension (`path_for`). -/
def pathFor (toolchain : Toolchain) (extension : String) : Except ToolchainFault Path :=
  (toolchain.base.withExtension extension).mapError ToolchainFault.naming

variable {σ φ : Type} [Text.Codecs] [FileSystem φ]

/-- Writes the file with some extension. -/
def writeFile (toolchain : Toolchain) (files : φ) (extension text : String) : φ × Except ToolchainFault Path :=
  match toolchain.pathFor extension with
  | .error fault => (files, .error fault)
  | .ok path =>
    match FileSystem.writeText files path text toolchain.encoding with
    | (files, .error fault) => (files, .error (.file fault))
    | (files, .ok ()) => (files, .ok path)

/-- Writes the vocabulary and then the grammar of a session (`write_files`). -/
def writeFiles (toolchain : Toolchain) (files : φ) (session : Session) : φ × Except ToolchainFault (List Path) :=
  match toolchain.writeFile files vocabularyExtension session.vocabulary.text with
  | (files, .error fault) => (files, .error fault)
  | (files, .ok vocabulary) =>
    match toolchain.writeFile files grammarExtension session.grammar.text with
    | (files, .error fault) => (files, .error fault)
    | (files, .ok grammar) => (files, .ok [vocabulary, grammar])

/-- Runs a command on the base name. -/
def runTool (toolchain : Toolchain) (runner : Runner σ φ) (workspace : Workspace σ φ) (command : String) :
    Workspace σ φ × Except ToolchainFault ToolResult :=
  let (tools, files, result) := runner.run workspace.tools workspace.files [command, toolchain.base.text]
  ({ files, tools }, result.mapError ToolchainFault.launch)

/-- Writes the files of a session and compiles them (`mkdfa`). -/
def compile (toolchain : Toolchain) (runner : Runner σ φ) (workspace : Workspace σ φ) (session : Session) :
    Workspace σ φ × Except ToolchainFault ToolResult :=
  match toolchain.writeFiles workspace.files session with
  | (files, .error fault) => ({ workspace with files }, .error fault)
  | (files, .ok _) => toolchain.runTool runner { workspace with files } toolchain.compileCommand

/-- Says sample sentences (`test`). -/
def sample (toolchain : Toolchain) (runner : Runner σ φ) (workspace : Workspace σ φ) :
    Workspace σ φ × Except ToolchainFault ToolResult :=
  toolchain.runTool runner workspace toolchain.sampleCommand

/-- Deletes the files with the given extensions that exist, and names them. -/
def deleteEach (toolchain : Toolchain) : φ → List String → φ × Except ToolchainFault (List Path)
  | files, [] => (files, .ok [])
  | files, extension :: rest =>
    match toolchain.pathFor extension with
    | .error fault => (files, .error fault)
    | .ok path =>
      match FileSystem.contains files path with
      | .error fault => (files, .error (.file fault))
      | .ok false => toolchain.deleteEach files rest
      | .ok true =>
        match FileSystem.delete files path with
        | (files, .error fault) => (files, .error (.file fault))
        | (files, .ok ()) =>
          let (files, removed) := toolchain.deleteEach files rest
          (files, removed.map (path :: ·))

/-- Deletes all files of the grammar that exist (`delete_files`). -/
def deleteFiles (toolchain : Toolchain) (files : φ) : φ × Except ToolchainFault (List Path) :=
  toolchain.deleteEach files extensions

end Toolchain

end Utterance
