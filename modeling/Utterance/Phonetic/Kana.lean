import Utterance.Phonetic.Syllable
import Utterance.Phonetic.Transliterator

/-!
# Kana to phones

The transliterator for kana (`KanaTransliterator`). Hiragana is read as katakana. A pair that is one syllable is taken
before a single kana, spaces are skipped, and the long vowel mark lengthens the vowel said last. Anything else has no
phones, nor has a mark without a vowel before it.
-/

namespace Utterance.Phonetic
set_option autoImplicit false

/-- The katakana of a hiragana; other characters stay. -/
def katakana (c : Char) : Char :=
  if 0x3041 ≤ c.toNat && c.toNat ≤ 0x3096 then Char.ofNat (c.toNat + 0x60) else c

/-- A text with its hiragana as katakana (`to_katakana`). -/
def toKatakana (text : String) : String :=
  String.ofList (text.toList.map katakana)

/-- The mark that lengthens a vowel. -/
def longVowelMark : Char := 'ー'

/-- The spaces that are skipped. -/
def isSkipped (c : Char) : Bool :=
  c = ' ' || c = '　' || c = '\t'

/-- The phones that can be lengthened. -/
def vowels : List String := ["a", "i", "u", "e", "o"]

/-- A phone, short or long. -/
structure Phone where
  symbol : String
  long : Bool := false
  deriving DecidableEq, Repr, Inhabited

/-- The phone as it is written. -/
def Phone.text (phone : Phone) : String :=
  if phone.long then phone.symbol ++ ":" else phone.symbol

/-- The phones said so far, last first, with the last one lengthened; `none` if that is no vowel. -/
def lengthen : List Phone → Option (List Phone)
  | [] => none
  | phone :: before => if phone.symbol ∈ vowels then some ({ phone with long := true } :: before) else none

/-- Says a syllable after the phones said so far, last first. -/
def say (syllable : List String) (said : List Phone) : List Phone :=
  (syllable.map fun symbol => ⟨symbol, false⟩).reverse ++ said

/-- The phones of a text after those said so far, last first, or the offset and the character that has none. -/
def phonesFrom (said : List Phone) (offset : Nat) : List Char → Except (Nat × Char) (List Phone)
  | [] => .ok said.reverse
  | c :: rest =>
    let kana := katakana c
    if isSkipped kana then phonesFrom said (offset + 1) rest
    else if kana = longVowelMark then
      match lengthen said with
      | some said => phonesFrom said (offset + 1) rest
      | none => .error (offset, c)
    else
      match rest with
      | [] =>
        match monograph? kana with
        | some syllable => .ok (say syllable said).reverse
        | none => .error (offset, c)
      | d :: after =>
        match digraph? kana (katakana d), monograph? kana with
        | some syllable, _ => phonesFrom (say syllable said) (offset + 2) after
        | none, some syllable => phonesFrom (say syllable said) (offset + 1) (d :: after)
        | none, none => .error (offset, c)

/-- The phones of a text in kana, or the character that has none (`KanaTransliterator.phonetic`). -/
def kana (text : String) : Except Unpronounceable String :=
  match phonesFrom [] 0 text.toList with
  | .ok phones => .ok (" ".intercalate (phones.map Phone.text))
  | .error (offset, char) => .error ⟨text, offset, char⟩

end Utterance.Phonetic

namespace Utterance

/-- The kana transliterator. It fails for nothing but characters. -/
def Transliterator.kana : Transliterator := fun text =>
  (Phonetic.kana text).mapError .unpronounceable

end Utterance
