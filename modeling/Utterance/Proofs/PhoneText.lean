import Mathlib.Data.List.Chain
import Utterance.Proofs.KanaNeutral
import Utterance.Proofs.KanaText

/-!
# Written phones

What is written for a text in kana is well formed: phones with one space between any two of them, each of letters and
perhaps a colon, which only follows a vowel. Nothing is written only for a text in which everything is skipped
(`isPhoneText_of_kana`). The phones said so far have this form at each point of the reading, also when a mark changes
the last of them.
-/

namespace Utterance.Phonetic
set_option autoImplicit false

/-- The characters of one phone: letters, and after a vowel perhaps a colon. -/
def IsPhoneWord (word : List Char) : Prop :=
  ∃ letters : List Char, letters ≠ [] ∧ (∀ c ∈ letters, c.isLower = true ∨ c = 'N') ∧
    (word = letters ∨ word = letters ++ [':'] ∧ ∃ vowel ∈ letters.getLast?, vowel ∈ ['a', 'i', 'u', 'e', 'o'])

/-- The text is a list of phones with a space between any two of them, and has no other blanks. -/
structure IsPhoneText (text : String) : Prop where
  phones : ∃ phones : List String, text = " ".intercalate phones ∧ ∀ phone ∈ phones, IsPhoneWord phone.toList
  notLeading : text.toList.head? ≠ some ' '
  notTrailing : text.toList.getLast? ≠ some ' '
  notDoubled : ¬[' ', ' '] <:+: text.toList
  noTab : '\t' ∉ text.toList
  noLinefeed : '\n' ∉ text.toList

/-! ## Words with spaces between them -/

section Words

variable {words : List (List Char)}

theorem head?_intercalate_ne (nonempty : ∀ word ∈ words, word ≠ []) (plain : ∀ word ∈ words, ' ' ∉ word) :
    ([' '].intercalate words).head? ≠ some ' ' := by
  cases words with
  | nil => simp
  | cons word rest =>
    rw [List.forall_mem_cons] at nonempty plain
    obtain ⟨c, others, rfl⟩ := List.exists_cons_of_ne_nil nonempty.1
    have other : c ≠ ' ' := fun same => plain.1 (same ▸ List.mem_cons_self)
    cases rest <;> simpa using other

theorem intercalate_ne_nil (nonempty : ∀ word ∈ words, word ≠ []) (some : words ≠ []) :
    [' '].intercalate words ≠ [] := by
  obtain ⟨word, rest, rfl⟩ := List.exists_cons_of_ne_nil some
  have first := nonempty word List.mem_cons_self
  cases rest <;> simp [first]

theorem getLast?_intercalate_ne (nonempty : ∀ word ∈ words, word ≠ []) (plain : ∀ word ∈ words, ' ' ∉ word) :
    ([' '].intercalate words).getLast? ≠ some ' ' := by
  induction words with
  | nil => simp
  | cons word rest ih =>
    rw [List.forall_mem_cons] at nonempty plain
    cases rest with
    | nil =>
      intro last
      rw [List.intercalate_singleton] at last
      exact plain.1 (List.mem_of_getLast? last)
    | cons next others =>
      have later := intercalate_ne_nil nonempty.2 (List.cons_ne_nil next others)
      rw [List.intercalate_cons_cons, List.append_assoc, List.getLast?_append_of_ne_nil _ (by simp),
        List.getLast?_append_of_ne_nil _ later]
      exact ih nonempty.2 plain.2

/-- Not both of two characters are spaces. -/
def NotBothSpaces (c d : Char) : Prop :=
  ¬(c = ' ' ∧ d = ' ')

theorem isChain_intercalate (nonempty : ∀ word ∈ words, word ≠ []) (plain : ∀ word ∈ words, ' ' ∉ word) :
    ([' '].intercalate words).IsChain NotBothSpaces := by
  have inside : ∀ word : List Char, ' ' ∉ word → word.IsChain NotBothSpaces := by
    intro word free
    refine List.Pairwise.isChain (List.pairwise_of_forall_mem_list fun c member d _ both => ?_)
    exact free (both.1 ▸ member)
  induction words with
  | nil => simp
  | cons word rest ih =>
    cases rest with
    | nil =>
      rw [List.intercalate_singleton]
      exact inside word (plain word List.mem_cons_self)
    | cons next others =>
      have starts := head?_intercalate_ne (List.forall_mem_cons.1 nonempty).2 (List.forall_mem_cons.1 plain).2
      rw [List.forall_mem_cons] at nonempty plain
      rw [List.intercalate_cons_cons, List.append_assoc, List.singleton_append, List.isChain_append]
      refine ⟨inside word plain.1, ?_, ?_⟩
      · -- After the space between two words comes the first letter of the next one.
        rw [List.isChain_cons]
        refine ⟨fun c first both => starts ?_, ih nonempty.2 plain.2⟩
        obtain rfl : c = ' ' := both.2
        exact first
      · intro c last d _ both
        exact plain.1 (both.1 ▸ List.mem_of_getLast? last)

theorem not_doubled_intercalate (nonempty : ∀ word ∈ words, word ≠ []) (plain : ∀ word ∈ words, ' ' ∉ word) :
    ¬[' ', ' '] <:+: [' '].intercalate words := by
  rintro ⟨before, after, same⟩
  have chain := isChain_intercalate nonempty plain
  rw [← same, List.append_assoc, List.isChain_append] at chain
  exact (List.isChain_cons_cons.1 chain.2.1).1 ⟨rfl, rfl⟩

end Words

/-! ## Phones -/

/-- The phone is of letters, and long only if it is a vowel. -/
structure Phone.IsSound (phone : Phone) : Prop where
  symbol : isSymbol phone.symbol = true
  vowel : phone.long = true → phone.symbol ∈ vowels

section Sound

variable {said : List Phone}

theorem isSound_say {syllable : List String} (symbols : ∀ symbol ∈ syllable, isSymbol symbol = true)
    (before : ∀ phone ∈ said, phone.IsSound) : ∀ phone ∈ say syllable said, phone.IsSound := by
  intro phone member
  obtain new | old := List.mem_append.1 member
  · obtain ⟨symbol, listed, rfl⟩ := List.mem_map.1 (List.mem_reverse.1 new)
    exact ⟨symbols symbol listed, nofun⟩
  · exact before phone old

theorem isSound_lengthen {longer : List Phone} (lengthened : lengthen said = some longer)
    (before : ∀ phone ∈ said, phone.IsSound) : ∀ phone ∈ longer, phone.IsSound := by
  cases said with
  | nil => cases lengthened
  | cons last others =>
    rw [lengthen] at lengthened
    split at lengthened
    · rename_i vowel
      cases lengthened
      rw [List.forall_mem_cons] at before ⊢
      exact ⟨⟨before.1.symbol, fun _ => vowel⟩, before.2⟩
    · cases lengthened

/-- Every phone of a text is sound. -/
theorem isSound_of_phonesWith {phones : List Phone} {offset : Nat} {text : List Char}
    (done : phonesWith digraphs [] offset text = .ok phones) : ∀ phone ∈ phones, phone.IsSound := by
  have kept : ∀ phone ∈ phones.reverse, phone.IsSound := by
    refine invariant_of_phonesWith (fun said => ∀ phone ∈ said, phone.IsSound) (fun entry listed _ before => ?_)
      (fun entry listed _ before => ?_) ?_ ?_ done
    · exact isSound_say (soundPair_of_mem listed).symbols before
    · exact isSound_say (soundKana_of_mem listed).symbols before
    · exact fun _ _ lengthened before => isSound_lengthen lengthened before
    · exact fun _ member => absurd member List.not_mem_nil
  exact fun phone member => kept phone (List.mem_reverse.2 member)

theorem Phone.IsSound.isPhoneWord {phone : Phone} (sound : phone.IsSound) : IsPhoneWord phone.text.toList := by
  obtain ⟨nonempty, letters⟩ := Bool.and_eq_true_iff.1 sound.symbol
  refine ⟨phone.symbol.toList, by simpa using nonempty, fun c member => ?_, ?_⟩
  · simpa [isPhoneLetter] using List.all_eq_true.1 letters c member
  · rw [Phone.text]
    split
    · rename_i long
      refine .inr ⟨String.toList_append, ?_⟩
      have vowel := sound.vowel long
      simp only [vowels, List.mem_cons, List.not_mem_nil, or_false] at vowel
      obtain same | same | same | same | same := vowel <;> rw [same]
      · exact ⟨'a', rfl, by simp⟩
      · exact ⟨'i', rfl, by simp⟩
      · exact ⟨'u', rfl, by simp⟩
      · exact ⟨'e', rfl, by simp⟩
      · exact ⟨'o', rfl, by simp⟩
    · exact .inl rfl

theorem IsPhoneWord.ne_nil {word : List Char} (phone : IsPhoneWord word) : word ≠ [] := by
  obtain ⟨letters, nonempty, _, rfl | ⟨rfl, _⟩⟩ := phone
  · exact nonempty
  · simp

theorem IsPhoneWord.space_notMem {word : List Char} (phone : IsPhoneWord word) : ' ' ∉ word := by
  obtain ⟨letters, _, all, shape⟩ := phone
  have free : ' ' ∉ letters := by
    intro member
    obtain small | nasal := all ' ' member
    · revert small
      decide
    · revert nasal
      decide
  obtain rfl | ⟨rfl, _⟩ := shape
  · exact free
  · simpa using free

/-! ## Texts without phones -/

theorem say_ne_nil {syllable : List String} (nonempty : syllable ≠ []) (said : List Phone) : say syllable said ≠ [] := by
  simp [say, nonempty]

/-- What was said is not taken back. -/
theorem ne_nil_of_phonesWith {phones : List Phone} {offset : Nat} {text : List Char} (some : said ≠ [])
    (done : phonesWith digraphs said offset text = .ok phones) : phones ≠ [] := by
  have kept : phones.reverse ≠ [] := by
    refine invariant_of_phonesWith (· ≠ []) (fun entry listed before _ => ?_) (fun entry listed before _ => ?_) ?_ some done
    · exact say_ne_nil (soundPair_of_mem listed).nonempty before
    · exact say_ne_nil (soundKana_of_mem listed).nonempty before
    · rintro (_ | ⟨last, others⟩) longer lengthened _ rfl
      · cases lengthened
      · rw [lengthen] at lengthened
        split at lengthened <;> cases lengthened
  simpa using kept

/-- There are no phones only if everything is skipped. -/
theorem eq_nil_iff_of_phonesWith {phones : List Phone} {offset : Nat} {text : List Char}
    (done : phonesWith digraphs [] offset text = .ok phones) :
    phones = [] ↔ ∀ c ∈ text, isSkipped (katakana c) = true := by
  induction text using reading_induction digraphs generalizing offset with
  | nil =>
    cases done
    simp
  | skipped c rest skipped ih =>
    rw [phonesWith_skipped skipped] at done
    rw [ih done, List.forall_mem_cons, and_iff_right skipped]
  | mark c rest mark ih =>
    rw [phonesWith_idle_mark mark rfl] at done
    cases done
  | pair c d rest syllable sounded found ih =>
    rw [phonesWith_pair sounded found] at done
    have syllable := (soundPair_of_mem (mem_of_lookup found)).nonempty
    refine iff_of_false (ne_nil_of_phonesWith (say_ne_nil syllable []) done) fun all => ?_
    have skipped := all c List.mem_cons_self
    rw [sounded.1] at skipped
    cases skipped
  | single c rest syllable sounded alone found ih =>
    rw [phonesWith_single sounded alone found] at done
    have syllable := (soundKana_of_mem (mem_of_lookup found)).nonempty
    refine iff_of_false (ne_nil_of_phonesWith (say_ne_nil syllable []) done) fun all => ?_
    have skipped := all c List.mem_cons_self
    rw [sounded.1] at skipped
    cases skipped
  | stray c rest sounded alone unknown =>
    rw [phonesWith_stray sounded alone unknown] at done
    cases done

end Sound

/-! ## Whole texts -/

/-- What is written for a text that can be said is a well-formed list of phones, and it is empty only if everything in
the text is skipped. -/
theorem isPhoneText_of_kana {text phones : String} (said : kana text = .ok phones) :
    IsPhoneText phones ∧ (phones = "" ↔ ∀ c ∈ text.toList, isSkipped c = true) := by
  have phonetic := isPhonetic_of_kana said
  obtain ⟨list, done, rfl⟩ := kana_eq_ok_iff.1 said
  have sound := isSound_of_phonesWith done
  have words : ∀ word ∈ (list.map Phone.text).map String.toList, IsPhoneWord word := by
    simp only [List.map_map, List.forall_mem_map]
    exact fun phone member => (sound phone member).isPhoneWord
  have nonempty := fun word member => (words word member).ne_nil
  have plain := fun word member => (words word member).space_notMem
  have characters : (" ".intercalate (list.map Phone.text)).toList =
      [' '].intercalate ((list.map Phone.text).map String.toList) := String.toList_intercalate
  refine ⟨⟨⟨list.map Phone.text, rfl, ?_⟩, ?_, ?_, ?_, ?_, ?_⟩, ?_⟩
  · exact List.forall_mem_map.1 words
  · rw [characters]
    exact head?_intercalate_ne nonempty plain
  · rw [characters]
    exact getLast?_intercalate_ne nonempty plain
  · rw [characters]
    exact not_doubled_intercalate nonempty plain
  · exact fun tab => absurd (phonetic '\t' tab) (by decide)
  · exact fun linefeed => absurd (phonetic '\n' linefeed) (by decide)
  · rw [written_eq_empty_iff (nonempty_of_phonesWith done), eq_nil_iff_of_phonesWith done]
    simp only [isSkipped_katakana]

/-- A pair, a kana without a vowel, spaces, and two marks that lengthen the same vowel. -/
theorem isPhoneText_of_kana_lengthened : kana "　きゃ ーーっ" = .ok "ky a: q" ∧ IsPhoneText "ky a: q" := by
  have said : kana "　きゃ ーーっ" = .ok "ky a: q" := by decide +kernel
  exact ⟨said, (isPhoneText_of_kana said).1⟩

end Utterance.Phonetic
