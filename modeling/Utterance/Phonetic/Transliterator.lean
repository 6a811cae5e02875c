import Utterance.Capacity
import Utterance.Text.Quoted

/-!
# Transliterators

A transliterator gives the phones of a word, as one text with spaces between them (`Transliterator.phonetic`), or points
at the character it has no phones for. It is given by the caller and may fail for reasons of its own as well. Beside the
kana transliterator there are three plain ones: each character its own phone, the word itself, and the word itself
unless it contains a forbidden one.
-/

namespace Utterance
set_option autoImplicit false

/-- A text that has no phones because of one character. -/
structure Unpronounceable where
  text : String
  position : Int
  char : Char
  deriving DecidableEq, Repr, Inhabited

/-- Why there is no character at a position. -/
inductive PositionFault where
  /-- the text is too short -/
  | outOfText
  /-- the position is no machine word -/
  | notIndexSized
  deriving DecidableEq, Repr, Inhabited

/-- What is said about it. -/
def PositionFault.message : PositionFault → String
  | .outOfText => "string index out of range"
  | .notIndexSized => notIndexSizedMessage

namespace Unpronounceable

/-- The character at a position; below zero positions count from the end. -/
def charAt? (text : String) (position : Int) : Option Char :=
  let chars := text.toList
  let index := if position < 0 then position + chars.length else position
  if index < 0 then none else chars[index.toNat]?

/-- Points at a position of a text, if there is a character. -/
def pointing (text : String) (position : Int) : Except PositionFault Unpronounceable :=
  if isIndexSized position then
    match charAt? text position with
    | some char => .ok ⟨text, position, char⟩
    | none => .error .outOfText
  else .error .notIndexSized

/-- What is said about it. -/
def message (error : Unpronounceable) : String :=
  "cannot transliterate " ++ Text.quoted (String.singleton error.char) ++ " at offset " ++ toString error.position ++
    " of " ++ Text.quoted error.text

end Unpronounceable

/-- Why a transliterator gives no phones. -/
inductive TransliterationFault where
  /-- a character has none -/
  | unpronounceable (error : Unpronounceable)
  /-- the transliterator fails for a reason of its own, which is no error of the user -/
  | other (reason : String)
  deriving DecidableEq, Repr, Inhabited

/-- The phones of a word, or why it has none. -/
abbrev Transliterator := String → Except TransliterationFault String

namespace Transliterator

/-- Each character is a phone. -/
def spelled : Transliterator := fun text =>
  .ok (" ".intercalate (text.toList.map String.singleton))

/-- The word is its own phone. -/
def verbatim : Transliterator := .ok

/-- The offset at which `word` first occurs in a text. -/
def findWord (word : List Char) : (offset : Nat) → List Char → Option (Nat × Char)
  | _, [] => none
  | offset, c :: rest => if word.isPrefixOf (c :: rest) then some (offset, c) else findWord word (offset + 1) rest

/-- The word is its own phone, unless `word` occurs in it. -/
def avoiding (word : String) : Transliterator := fun text =>
  match findWord word.toList 0 text.toList with
  | none => .ok text
  | some (offset, char) => .error (.unpronounceable ⟨text, offset, char⟩)

end Transliterator

end Utterance
