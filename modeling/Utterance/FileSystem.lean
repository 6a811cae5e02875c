import Utterance.Path
import Utterance.Text.Codec
import Utterance.Text.Lines

/-!
# File systems

What can be done with files, on any machine. A path is opened first and leads to a place, where bytes are read or
written; two paths may lead to one place, and each step may fail for reasons that only the machine knows. Opening a file
for writing empties it before anything is encoded, so a text that cannot be written leaves an empty file behind.
-/

namespace Utterance
set_option autoImplicit false

/-- A machine's files, with `φ` for the states they can be in. -/
class FileSystem (φ : Type) where
  /-- where the contents of a file are -/
  Place : Type
  /-- whether a path leads to a file, `Path.is_file` -/
  isFile : φ → Path → Except SystemFault Bool
  /-- whether a path leads to anything, `Path.exists` -/
  contains : φ → Path → Except SystemFault Bool
  openToRead : φ → Path → Except SystemFault Place
  read : φ → Place → Except SystemFault Text.Bytes
  /-- makes a file that is not there and empties one that is -/
  openToWrite : φ → Path → φ × Except SystemFault Place
  write : φ → Place → Text.Bytes → φ × Except SystemFault Unit
  /-- takes a file away, `Path.unlink` -/
  delete : φ → Path → φ × Except SystemFault Unit

namespace FileSystem

variable {φ : Type} [FileSystem φ] [Text.Codecs]

/-- An encoding whose name contains the null character is refused before any file is opened. -/
def nullName : SystemFault := .other "bad value" "embedded null character"

/-- The text of a file, every kind of newline as a line feed (`read_source_file`). The file is opened before the
encoding is looked up. -/
def readText (files : φ) (path : Path) (encoding : String) : Except SystemFault String :=
  if Text.hasNull encoding then .error nullName
  else do
    let place ← openToRead files path
    let codec ← Text.Codecs.find encoding
    let bytes ← read files place
    let text ← codec.decode bytes
    return String.ofList (Text.unifyNewlines text.toList)

/-- Writes a text to a file (`write_output_file`): the files after it, and why it failed if it did. -/
def writeText (files : φ) (path : Path) (text encoding : String) : φ × Except SystemFault Unit :=
  if Text.hasNull encoding then (files, .error nullName)
  else
    match openToWrite files path with
    | (files, .error fault) => (files, .error fault)
    | (files, .ok place) =>
      match Text.encode encoding text with
      | .error fault => (files, .error fault)
      | .ok bytes => write files place bytes

end FileSystem

end Utterance
