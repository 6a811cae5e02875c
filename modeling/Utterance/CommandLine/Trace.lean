import Utterance.PatternFile
import Utterance.Toolchain.Basic

/-!
# The trace of a verbose run

A verbose run says what each part of the compiler has done, one line each, in the order it was done. The lines follow
from what goes in and what comes out of each part, so they are computed beside it.
-/

namespace Utterance.CommandLine.Trace
set_option autoImplicit false

/-- A line from some part of the compiler. -/
def line (part message : String) : String :=
  "DEBUG juliusgram." ++ part ++ ": " ++ message ++ "\n"

/-- A pattern was parsed. -/
def parsed (pattern : String) (table : NodeTable) : String :=
  line "frontend.parser" ("Parsed pattern " ++ Text.quoted pattern) ++
    line "frontend.builder" ("Built pattern tree with " ++ toString table.nodes.size ++ " node(s)")

/-- A pattern was parsed, if it could be. -/
def parse [Limits] (source : Pattern.Source) : String :=
  match Session.parse source with
  | .ok table => parsed source.pattern table
  | .error _ => ""

/-- Whether an item can be repeated as it is written. -/
def isRepeatable [Limits] (repetition : Repetition) : Bool :=
  (repetition.productions "").isOk

/-- The texts of the literals that are reached in a chain, in order, and whether its end is reached. -/
def literals [Limits] : Chain → List String × Bool
  | .nil => ([], true)
  | .broken _ => ([], false)
  | .leaf content repetition _ next =>
    if isRepeatable repetition then
      let (rest, ended) := literals next
      match content with
      | .literal text => (text :: rest, ended)
      | _ => (rest, ended)
    else ([], false)
  | .group inner repetition _ next =>
    if isRepeatable repetition then
      match literals inner with
      | (inside, false) => (inside, false)
      | (inside, true) =>
        let (rest, ended) := literals next
        (inside ++ rest, ended)
    else ([], false)

/-- Texts were transliterated, up to the first that has no phones. -/
def transliterated (transliterate : Transliterator) : List String → String
  | [] => ""
  | text :: rest =>
    match transliterate text with
    | .ok phones =>
      line "transliteration.kana" (Text.quoted text ++ " -> " ++ Text.quoted phones) ++
        transliterated transliterate rest
    | .error _ => ""

/-- A pattern was lowered, if it could be. -/
def lowered [Limits] (transliterate : Transliterator) (number : Int) (table : NodeTable) : String :=
  match table.lower transliterate number with
  | .ok result =>
    line "codegen.julius"
      ("Generated ids " ++ toString number ++ ".." ++ toString (result.nextNumber - 1) ++ ": " ++
        toString result.grammar.length ++ " grammar line(s)")
  | .error _ => ""

/-- A pattern was added to a session, as far as that went. -/
def add [Limits] (transliterate : Transliterator) (session : Session) (source : Pattern.Source) : String :=
  match Session.parse source with
  | .error _ => ""
  | .ok table =>
    parsed source.pattern table ++
      line "compiler.session" ("AST for " ++ Text.quoted source.pattern ++ ": " ++ table.dump.toOption.getD "") ++
      transliterated transliterate (literals table.chain).1 ++ lowered transliterate session.nextNumber table

/-- A symbol was added to a session, as far as that went. -/
def addSymbol (transliterate : Transliterator) (name : String) (values : List String) : String :=
  if isSymbolName name then
    transliterated transliterate values ++
      match Session.entries transliterate (values.map Scalar.text) with
      | .ok _ => line "compiler.session" ("Added symbol " ++ name ++ " with " ++ toString values.length ++ " value(s)")
      | .error _ => ""
  else ""

/-- The patterns of a file were added one by one. -/
def addLines [Limits] (transliterate : Transliterator) (file : String) : Compilation → List (Nat × String) → String
  | compilation, [] =>
    line "compiler.driver"
      (file ++ ": " ++ toString compilation.compiled ++ " pattern(s) compiled, " ++
        toString compilation.report.diagnostics.length ++ " error(s)")
  | compilation, (number, pattern) :: rest =>
    let next := compilation.addLine transliterate file number pattern
    add transliterate compilation.session ⟨pattern, file, number⟩ ++
      if next.aborted.isSome then "" else addLines transliterate file next rest

/-- A file was compiled. -/
def compile [Limits] (transliterate : Transliterator) (session : Session) (text file : String) : String :=
  addLines transliterate file { session, report := { sources := [⟨file, text, 1⟩] } } (patternLines text)

/-- A command is about to be started, if whatever runs it says so. -/
def running {σ φ : Type} (runner : Runner σ φ) (args : List String) : String :=
  if runner.announces then line "compiler.toolchain" ("Running " ++ " ".intercalate args) else ""

/-- The compiling tool has run; only failures are said. -/
def compiledFiles (result : ToolResult) : String :=
  if result.ok then "" else line "compiler.toolchain" ("mkdfa failed with exit status " ++ toString result.status)

end Utterance.CommandLine.Trace
