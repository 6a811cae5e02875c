/-!
# Codecs

A codec reads bytes as characters and writes characters as bytes. Which codecs there are, and which names they go by, is
up to the machine and left open as `Codecs`: whatever reads or writes a text does so with any of them.
-/

namespace Utterance
set_option autoImplicit false

/-- Why the machine could not do what was asked: the kind of failure in a few words, and what is said about it. -/
inductive SystemFault where
  /-- the operating system refuses -/
  | refused (kind message : String)
  /-- bytes are no text in their encoding -/
  | undecodable (message : String)
  | other (kind message : String)
  deriving DecidableEq, Repr, Inhabited

/-- What is said about it. -/
def SystemFault.message : SystemFault → String
  | .refused _ message => message
  | .undecodable message => message
  | .other _ message => message

namespace Text

/-- The contents of a file. -/
abbrev Bytes := List UInt8

/-- A way to write characters as bytes. -/
structure Codec where
  decode : Bytes → Except SystemFault String
  encode : String → Except SystemFault Bytes

/-- The codecs of a machine. -/
class Codecs where
  find : (name : String) → Except SystemFault Codec

/-- Whether a text contains the null character. -/
def hasNull (text : String) : Bool :=
  text.toList.contains '\x00'

/-- The bytes of a text in an encoding given by its name. -/
def encode [Codecs] (encoding text : String) : Except SystemFault Bytes := do
  let codec ← Codecs.find encoding
  codec.encode text

end Text

end Utterance
