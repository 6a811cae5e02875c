import Utterance.FileSystem
import Utterance.PatternFile

/-!
# Pattern files

Reading a pattern file and adding its patterns. The file is found by its normalised path, while places in it go by the
name it was given.
-/

namespace Utterance
set_option autoImplicit false

/-- Adds every pattern of a file to a session (`CompilerDriver.compile_file`). -/
def Session.compileFile {φ : Type} [Limits] [Text.Codecs] [FileSystem φ] (transliterate : Transliterator)
    (session : Session) (files : φ) (file : String) (encoding : String := "utf-8") : Except SystemFault Compilation :=
  (FileSystem.readText files (Path.ofText file) encoding).map fun text => session.compile transliterate text file

end Utterance
