import Utterance.Proofs.Basic
import Utterance.Proofs.KanaSayable

/-!
# What kana let through

Which characters a text may have that can be said in kana (`isSpoken_of_kana`), and of which characters its phones are
made (`isPhonetic_of_kana`). The first is a part of what can be said, the second a property of the tables of syllables.
-/

namespace Utterance.Phonetic
set_option autoImplicit false

/-- Whether the character can stand in a text that has phones: it is skipped, lengthens a vowel, or is a kana. -/
def isSpoken (c : Char) : Bool :=
  isSkipped (katakana c) || katakana c = longVowelMark || (monograph? (katakana c)).isSome

/-- The characters of written phones. -/
def isPhonetic (c : Char) : Bool :=
  c.isAlpha || c = ':' || c = ' '

theorem isAlpha_of_isPhoneLetter {c : Char} (letter : isPhoneLetter c = true) : c.isAlpha = true := by
  obtain small | nasal := Bool.or_eq_true_iff.1 letter
  · exact Bool.or_eq_true_iff.2 (.inr small)
  · obtain rfl : c = 'N' := by simpa using nasal
    rfl

theorem isSpoken_of_isSayable {before : List Char} {c : Char} (sayable : isSayable before (katakana c) = true) :
    isSpoken c = true := by
  have first := (Bool.and_eq_true_iff.1 sayable).1
  simpa [isSpoken, isKana] using first

theorem isSpoken_of_kana {text phones : String} (said : kana text = .ok phones) :
    ∀ c ∈ text.toList, isSpoken c = true := by
  intro c member
  obtain ⟨list, done, _⟩ := kana_eq_ok_iff.1 said
  have idle : (lengthen []).isSome = canLengthen [] := rfl
  have all := unsayable?_eq_none_iff.1 ((exists_phonesWith_iff (List.Subset.refl _) idle).1 ⟨list, done⟩)
  obtain ⟨i, found⟩ := List.mem_iff_getElem?.1 member
  exact isSpoken_of_isSayable (all i (katakana c) (by simp [found]))

/-- Written phones are made of letters, marks of length and spaces. -/
theorem isPhonetic_of_kana {text phones : String} (said : kana text = .ok phones) :
    ∀ c ∈ phones.toList, isPhonetic c = true := by
  obtain ⟨list, done, rfl⟩ := kana_eq_ok_iff.1 said
  have lettered : ∀ phone ∈ list, ∀ c ∈ phone.symbol.toList, c.isAlpha = true := by
    intro phone member c letter
    have symbol := (Bool.and_eq_true_iff.1 (haveSymbols_of_phonesWith done phone member)).2
    exact isAlpha_of_isPhoneLetter (List.all_eq_true.1 symbol c letter)
  intro c member
  rw [String.toList_intercalate] at member
  obtain between | ⟨_, listed, inside⟩ := mem_intercalate member
  · have space : c = ' ' := by simpa using between
    exact space ▸ rfl
  · simp only [List.mem_map, exists_exists_and_eq_and] at listed
    obtain ⟨phone, written, rfl⟩ := listed
    rw [Phone.text] at inside
    split at inside
    · rw [String.toList_append, List.mem_append] at inside
      obtain letter | mark := inside
      · simp [isPhonetic, lettered phone written c letter]
      · have colon : c = ':' := by simpa using mark
        exact colon ▸ rfl
    · simp [isPhonetic, lettered phone written c inside]

end Utterance.Phonetic
