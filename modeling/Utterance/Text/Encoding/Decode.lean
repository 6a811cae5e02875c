import Utterance.Text.Encoding.Basic
import Utterance.Text.Quoted

/-!
# Reading bytes as characters

Each encoding takes one character from the front of the bytes, or says how many of them are wrong and why. A text is
read character by character up to the first fault.
-/

namespace Utterance.Text
set_option autoImplicit false

/-- Bytes at the front that are no character. -/
structure Malformed where
  length : Nat
  reason : String
  deriving DecidableEq, Repr, Inhabited

/-- Bytes that are no character: the first, its position, and how many there are. -/
structure DecodeFault where
  encoding : Encoding
  byte : UInt8
  position : Nat
  length : Nat
  reason : String
  deriving DecidableEq, Repr, Inhabited

namespace Encoding

/-- Reads `need` more bytes of a character, the next one between `low` and `high`. -/
def utf8Rest : (need low high value length : Nat) → Bytes → Except Malformed (Char × Nat)
  | 0, _, _, value, length, _ => .ok (Char.ofNat value, length)
  | _ + 1, _, _, _, length, [] => .error ⟨length, "unexpected end of data"⟩
  | need + 1, low, high, value, length, byte :: rest =>
    if low ≤ byte.toNat && byte.toNat ≤ high then
      utf8Rest need 0x80 0xbf (value * 64 + (byte.toNat - 0x80)) (length + 1) rest
    else .error ⟨length, "invalid continuation byte"⟩

/-- The first character in UTF-8: the shortest form only, and no surrogates. -/
def utf8First (byte : Nat) (rest : Bytes) : Except Malformed (Char × Nat) :=
  if byte < 0x80 then .ok (Char.ofNat byte, 1)
  else if byte < 0xc2 then .error ⟨1, "invalid start byte"⟩
  else if byte < 0xe0 then utf8Rest 1 0x80 0xbf (byte - 0xc0) 1 rest
  else if byte < 0xf0 then
    utf8Rest 2 (if byte = 0xe0 then 0xa0 else 0x80) (if byte = 0xed then 0x9f else 0xbf) (byte - 0xe0) 1 rest
  else if byte < 0xf5 then
    utf8Rest 3 (if byte = 0xf0 then 0x90 else 0x80) (if byte = 0xf4 then 0x8f else 0xbf) (byte - 0xf0) 1 rest
  else .error ⟨1, "invalid start byte"⟩

/-- The first character in the Japanese encoding. -/
def eucFirst (byte : Nat) (rest : Bytes) : Except Malformed (Char × Nat) :=
  if byte < 0x80 then .ok (Char.ofNat byte, 1)
  else
    match rest with
    | [] => .error ⟨1, "incomplete multibyte sequence"⟩
    | next :: _ =>
      if byte = 0xa1 && next.toNat = 0xbc then .ok (Char.ofNat 0x30fc, 2)
      else
        match kanaRows.find? fun (lead, _, count) =>
          lead = byte && 0xa1 ≤ next.toNat && next.toNat < 0xa1 + count with
        | some (_, first, _) => .ok (Char.ofNat (first + (next.toNat - 0xa1)), 2)
        | none => .error ⟨1, "illegal multibyte sequence"⟩

/-- The first character in code units of two bytes, the low one first. -/
def utf16First (low : Nat) (rest : Bytes) : Except Malformed (Char × Nat) :=
  match rest with
  | [] => .error ⟨1, "truncated data"⟩
  | high :: rest =>
    let unit := high.toNat * 256 + low
    if unit < 0xd800 || 0xe000 ≤ unit then .ok (Char.ofNat unit, 2)
    else if 0xdc00 ≤ unit then .error ⟨2, "illegal encoding"⟩
    else
      match rest with
      | low' :: high' :: _ =>
        let second := high'.toNat * 256 + low'.toNat
        if 0xdc00 ≤ second && second < 0xe000 then
          .ok (Char.ofNat (0x10000 + (unit - 0xd800) * 0x400 + (second - 0xdc00)), 4)
        else .error ⟨2, "illegal UTF-16 surrogate"⟩
      | few => .error ⟨2 + few.length, "unexpected end of data"⟩

/-- The first character of bytes, and how many of them it takes. -/
def decodeFirst (encoding : Encoding) (byte : UInt8) (rest : Bytes) : Except Malformed (Char × Nat) :=
  match encoding with
  | .utf8 => utf8First byte.toNat rest
  | .ascii => if byte.toNat < 0x80 then .ok (Char.ofNat byte.toNat, 1) else .error ⟨1, "ordinal not in range(128)"⟩
  | .latin1 => .ok (Char.ofNat byte.toNat, 1)
  | .utf16LittleEndian => utf16First byte.toNat rest
  | .eucJapanese => eucFirst byte.toNat rest

/-- The characters of bytes that start at a position. The first `skip` bytes belong to the character before. -/
def decodeFrom (encoding : Encoding) : (skip position : Nat) → Bytes → Except DecodeFault (List Char)
  | _, _, [] => .ok []
  | skip + 1, position, _ :: rest => decodeFrom encoding skip (position + 1) rest
  | 0, position, byte :: rest =>
    match encoding.decodeFirst byte rest with
    | .error malformed => .error ⟨encoding, byte, position, malformed.length, malformed.reason⟩
    | .ok (c, length) => (decodeFrom encoding (length - 1) (position + 1) rest).map (c :: ·)

/-- The text of bytes. -/
def decode (encoding : Encoding) (bytes : Bytes) : Except DecodeFault String :=
  (encoding.decodeFrom 0 0 bytes).map String.ofList

end Encoding

/-- What is said about bytes that are no character. -/
def DecodeFault.message (fault : DecodeFault) : String :=
  let subject :=
    if fault.length = 1 then
      "byte 0x" ++ String.ofList (hexDigits 2 fault.byte.toNat) ++ " in position " ++ toString fault.position
    else "bytes in position " ++ toString fault.position ++ "-" ++ toString (fault.position + fault.length - 1)
  "'" ++ fault.encoding.title ++ "' codec can't decode " ++ subject ++ ": " ++ fault.reason

end Utterance.Text
