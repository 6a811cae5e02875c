import Utterance.Text.Encoding.Basic
import Utterance.Text.Quoted

/-!
# Writing characters as bytes

Each encoding writes a text character by character. A character that it lacks is a fault at that character; the
encodings that are a range of code points name the whole run of such characters.
-/

namespace Utterance.Text
set_option autoImplicit false

/-- Characters that an encoding lacks: the first, its position, and how many follow each other. -/
structure EncodeFault where
  encoding : Encoding
  char : Char
  position : Nat
  count : Nat
  deriving DecidableEq, Repr, Inhabited

namespace Encoding

/-- A code unit of two bytes, the low one first. -/
def unitBytes (n : Nat) : Bytes :=
  [UInt8.ofNat (n % 256), UInt8.ofNat (n / 256)]

/-- The two bytes of a kana in the Japanese encoding. -/
def kanaBytes (n : Nat) : Option Bytes :=
  if n = 0x30fc then some [0xa1, 0xbc]
  else
    (kanaRows.find? fun (_, first, count) => first ≤ n && n < first + count).map fun (lead, first, _) =>
      [UInt8.ofNat lead, UInt8.ofNat (0xa1 + (n - first))]

/-- The bytes of a character. -/
def encodeChar (encoding : Encoding) (c : Char) : Option Bytes :=
  let n := c.toNat
  match encoding with
  | .utf8 => some (String.utf8EncodeChar c)
  | .ascii => if n < 0x80 then some [UInt8.ofNat n] else none
  | .latin1 => if n < 0x100 then some [UInt8.ofNat n] else none
  | .utf16LittleEndian =>
    if n < 0x10000 then some (unitBytes n)
    else some (unitBytes (0xd800 + (n - 0x10000) / 0x400) ++ unitBytes (0xdc00 + (n - 0x10000) % 0x400))
  | .eucJapanese => if n < 0x80 then some [UInt8.ofNat n] else kanaBytes n

/-- Whether a fault covers a whole run of characters. -/
def namesRuns : Encoding → Bool
  | .ascii => true
  | .latin1 => true
  | _ => false

/-- The bytes of a text that starts at a position. -/
def encodeFrom (encoding : Encoding) : (position : Nat) → List Char → Except EncodeFault Bytes
  | _, [] => .ok []
  | position, c :: rest =>
    match encoding.encodeChar c with
    | some bytes => (encodeFrom encoding (position + 1) rest).map (bytes ++ ·)
    | none =>
      let more := if encoding.namesRuns then (rest.takeWhile fun d => (encoding.encodeChar d).isNone).length else 0
      .error ⟨encoding, c, position, 1 + more⟩

/-- The bytes of a text. -/
def encode (encoding : Encoding) (text : String) : Except EncodeFault Bytes :=
  encoding.encodeFrom 0 text.toList

/-- Why an encoding lacks a character. -/
def lackReason : Encoding → String
  | .ascii => "ordinal not in range(128)"
  | .latin1 => "ordinal not in range(256)"
  | _ => "illegal multibyte sequence"

end Encoding

/-- What is said about characters that an encoding lacks. -/
def EncodeFault.message (fault : EncodeFault) : String :=
  let subject :=
    if fault.count = 1 then
      "character '" ++ String.ofList (codePointEscape fault.char.toNat) ++ "' in position " ++ toString fault.position
    else "characters in position " ++ toString fault.position ++ "-" ++ toString (fault.position + fault.count - 1)
  "'" ++ fault.encoding.title ++ "' codec can't encode " ++ subject ++ ": " ++ fault.encoding.lackReason

end Utterance.Text
