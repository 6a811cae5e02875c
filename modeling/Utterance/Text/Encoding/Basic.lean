import Utterance.Text.Codec

/-!
# Encodings

Some encodings that files are read and written in, and the names they go by. In a name only letters, digits and dots
count; anything between them separates, and the case of letters does not matter.
-/

namespace Utterance.Text
set_option autoImplicit false

/-- A way to write characters as bytes. -/
inductive Encoding where
  | utf8
  | ascii
  | latin1
  | utf16LittleEndian
  | eucJapanese
  deriving DecidableEq, Repr, Inhabited

namespace Encoding

/-- The characters of a name that count. -/
def isNameLetter (c : Char) : Bool :=
  c.isAlphanum || c = '.'

/-- A name in lower case, with one underscore for whatever stands between its letters. -/
def normalName : List Char → List Char
  | [] => []
  | c :: rest =>
    if isNameLetter c then c.toLower :: normalName rest
    else
      match normalName rest with
      | [] => []
      | '_' :: more => '_' :: more
      | more => '_' :: more

/-- The full names, in their normal form. With `none` a name means something other than characters as bytes. -/
def fullNames : List (String × Option Encoding) :=
  [("utf_8", some .utf8), ("ascii", some .ascii), ("latin_1", some .latin1), ("utf_16_le", some .utf16LittleEndian),
   ("euc_jp", some .eucJapanese), ("base64_codec", none), ("bz2_codec", none), ("hex_codec", none),
   ("quopri_codec", none), ("rot_13", none), ("uu_codec", none), ("zlib_codec", none)]

/-- The other names, in their normal form. -/
def otherNames : List (String × Option Encoding) :=
  [("u8", some .utf8), ("utf", some .utf8), ("utf8", some .utf8), ("utf8_ucs2", some .utf8),
   ("utf8_ucs4", some .utf8), ("cp65001", some .utf8),
   ("646", some .ascii), ("ansi_x3.4_1968", some .ascii), ("ansi_x3_4_1968", some .ascii),
   ("ansi_x3.4_1986", some .ascii), ("cp367", some .ascii), ("csascii", some .ascii), ("ibm367", some .ascii),
   ("iso646_us", some .ascii), ("iso_646.irv_1991", some .ascii), ("iso_ir_6", some .ascii), ("us", some .ascii),
   ("us_ascii", some .ascii),
   ("8859", some .latin1), ("cp819", some .latin1), ("csisolatin1", some .latin1), ("ibm819", some .latin1),
   ("iso8859", some .latin1), ("iso8859_1", some .latin1), ("iso_8859_1", some .latin1),
   ("iso_8859_1_1987", some .latin1), ("iso_ir_100", some .latin1), ("l1", some .latin1), ("latin", some .latin1),
   ("latin1", some .latin1),
   ("unicodelittleunmarked", some .utf16LittleEndian), ("utf_16le", some .utf16LittleEndian),
   ("eucjp", some .eucJapanese), ("ujis", some .eucJapanese), ("u_jis", some .eucJapanese),
   ("base64", none), ("base_64", none), ("bz2", none), ("hex", none), ("quopri", none), ("quoted_printable", none),
   ("quotedprintable", none), ("rot13", none), ("uu", none), ("zip", none), ("zlib", none)]

/-- What a name in its normal form stands for. In the other names an underscore may be written as a dot. -/
def lookUp (name : String) : Option (Option Encoding) :=
  let undotted := String.ofList (name.toList.map fun c => if c = '.' then '_' else c)
  otherNames.lookup name <|> otherNames.lookup undotted <|> fullNames.lookup name

/-- Why a name is not the name of an encoding. -/
inductive NameFault where
  | unknown (name : String)
  /-- the name means something other than characters as bytes -/
  | notText (name : String)
  deriving DecidableEq, Repr, Inhabited

/-- Characters up to so many bytes. One that fits only in part is replaced. -/
def shortened : (bytes : Nat) → List Char → List Char
  | _, [] => []
  | 0, _ => []
  | bytes, c :: rest => if c.utf8Size ≤ bytes then c :: shortened (bytes - c.utf8Size) rest else ['\ufffd']

/-- What is said about it; of a long name only the start. -/
def NameFault.message : NameFault → String
  | .unknown name => "unknown encoding: " ++ name
  | .notText name =>
    "'" ++ String.ofList (shortened 400 name.toList) ++
      "' is not a text encoding; use codecs.open() to handle arbitrary codecs"

/-- The encoding of a name. -/
def ofName (name : String) : Except NameFault Encoding :=
  match lookUp (String.ofList (normalName (name.toList.dropWhile fun c => !isNameLetter c))) with
  | some (some encoding) => .ok encoding
  | some none => .error (.notText name)
  | none => .error (.unknown name)

/-- The name of an encoding in messages. -/
def title : Encoding → String
  | .utf8 => "utf-8"
  | .ascii => "ascii"
  | .latin1 => "latin-1"
  | .utf16LittleEndian => "utf-16-le"
  | .eucJapanese => "euc_jp"

end Encoding

/-- The first row of the Japanese set that has hiragana, and the next one with katakana, by their lead bytes. -/
def kanaRows : List (Nat × Nat × Nat) :=
  [(0xa4, 0x3041, 83), (0xa5, 0x30a1, 86)]

end Utterance.Text
