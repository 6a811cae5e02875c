import Utterance.Proofs.KanaReading

/-!
# Which kana can be said

A text in kana has phones if each of its characters can be said after those before it: it is skipped, it is a kana, or
it is a mark and the last kana before it ends in a vowel. Otherwise reading stops at the first character that cannot be
said (`kana_eq_error_iff_unsayable`). Pairs have no part in that: both kana of a pair can be said one after the other
as well.
-/

namespace Utterance.Phonetic
set_option autoImplicit false

/-- The sign of a doubled consonant. -/
def geminate : Char := 'ッ'

/-- The nasal that is a mora of its own. -/
def moraicNasal : Char := 'ン'

/-- Whether the character is a kana that stands alone. -/
def isKana (c : Char) : Bool := (monograph? c).isSome

/-- The last kana of a text: what is skipped and marks are passed over. -/
def lastKana? (before : List Char) : Option Char :=
  before.reverse.find? fun c => !isSkipped c && c != longVowelMark

/-- Whether a mark after a text lengthens a vowel. Of all kana, only two end in none. -/
def canLengthen (before : List Char) : Bool :=
  match lastKana? before with
  | some kana => isKana kana && kana != geminate && kana != moraicNasal
  | none => false

/-- Whether a character can be said after a text. -/
def isSayable (before : List Char) (c : Char) : Bool :=
  (isSkipped c || c == longVowelMark || isKana c) && (c != longVowelMark || canLengthen before)

/-- The character at an index, if there is one, can be said after those before it. -/
def IsSayableAt (kana : List Char) (i : Nat) : Prop :=
  ∀ c ∈ kana[i]?, isSayable (kana.take i) c = true

/-- The first character that cannot be said after a text, and its offset. -/
def unsayable? (before : List Char) (offset : Nat) : List Char → Option (Nat × Char)
  | [] => none
  | c :: rest =>
    if isSayable before (katakana c) then unsayable? (before ++ [katakana c]) (offset + 1) rest else some (offset, c)

/-! ## The first one -/

section First

variable {before rest : List Char} {c : Char}

theorem isSayableAt_zero : IsSayableAt (before ++ c :: rest) (before.length + 0) ↔ isSayable before c = true := by
  simp [IsSayableAt]

theorem isSayableAt_succ (i : Nat) : IsSayableAt (before ++ c :: rest) (before.length + (i + 1)) ↔
    IsSayableAt ((before ++ [c]) ++ rest) ((before ++ [c]).length + i) := by
  have same : before.length + (i + 1) = (before ++ [c]).length + i := by
    simp only [List.length_append, List.length_singleton]
    omega
  rw [same, List.append_assoc, List.singleton_append]

/-- The first character that cannot be said is the one with the least index. -/
theorem unsayable?_eq_some_iff {text : List Char} {offset place : Nat} :
    unsayable? before offset text = some (place, c) ↔ ∃ i, place = offset + i ∧ text[i]? = some c ∧
      ¬IsSayableAt (before ++ text.map katakana) (before.length + i) ∧
      ∀ j < i, IsSayableAt (before ++ text.map katakana) (before.length + j) := by
  induction text generalizing before offset with
  | nil => simp [unsayable?]
  | cons first others ih =>
    rw [unsayable?, List.map_cons, ← Nat.or_exists_add_one]
    simp only [Nat.forall_lt_succ_left, isSayableAt_zero, isSayableAt_succ]
    split
    · rename_i sayable
      rw [ih]
      constructor
      · rintro ⟨i, rfl, found, stops, free⟩
        exact .inr ⟨i, by omega, found, stops, sayable, free⟩
      · rintro (⟨_, _, stops, _⟩ | ⟨i, rfl, found, stops, _, free⟩)
        · exact absurd sayable stops
        · exact ⟨i, by omega, found, stops, free⟩
    · rename_i unsayable
      constructor
      · intro same
        cases same
        exact .inl ⟨rfl, rfl, unsayable, fun j small => absurd small (Nat.not_lt_zero j)⟩
      · rintro (⟨rfl, found, _, _⟩ | ⟨i, _, _, _, sayable, _⟩)
        · cases found
          rfl
        · exact absurd sayable unsayable

theorem unsayable?_eq_none_iff {text : List Char} {offset : Nat} : unsayable? before offset text = none ↔
    ∀ i, IsSayableAt (before ++ text.map katakana) (before.length + i) := by
  induction text generalizing before offset with
  | nil => simp [unsayable?, IsSayableAt]
  | cons first others ih =>
    rw [unsayable?, List.map_cons, ← Nat.and_forall_add_one]
    simp only [isSayableAt_zero, isSayableAt_succ]
    split
    · rename_i sayable
      rw [ih]
      exact ⟨fun all => ⟨sayable, all⟩, And.right⟩
    · rename_i unsayable
      exact ⟨nofun, fun all => absurd all.1 unsayable⟩

end First

/-! ## The tables of syllables -/

/-- Whether a syllable ends in a vowel. -/
def endsInVowel (syllable : List String) : Bool :=
  match syllable.getLast? with
  | some symbol => decide (symbol ∈ vowels)
  | none => false

/-- Whether a character is a letter of phones: a small letter, or `N`. -/
def isPhoneLetter (c : Char) : Bool :=
  c.isLower || c == 'N'

/-- Whether a symbol is a letter or more. -/
def isSymbol (symbol : String) : Bool :=
  symbol != "" && symbol.toList.all isPhoneLetter

/-- Both kana of a pair are kana, and the second is one that ends in a vowel, as the pair does. -/
structure SoundPair (first second : Char) (syllable : List String) : Prop where
  isFirst : isKana first = true
  isSecond : isKana second = true
  notGeminate : second ≠ geminate
  notNasal : second ≠ moraicNasal
  nonempty : syllable ≠ []
  vowel : endsInVowel syllable = true
  symbols : ∀ symbol ∈ syllable, isSymbol symbol = true

/-- A kana is neither skipped nor a mark, it has phones, and the last is a vowel unless the kana is one of two. -/
structure SoundKana (kana : Char) (syllable : List String) : Prop where
  notSkipped : isSkipped kana = false
  notMark : kana ≠ longVowelMark
  nonempty : syllable ≠ []
  vowel : endsInVowel syllable = (kana != geminate && kana != moraicNasal)
  symbols : ∀ symbol ∈ syllable, isSymbol symbol = true

-- Both tables are looked through in one go, for everything that is used of them.
theorem tables_sound :
    ((digraphs.all fun entry => isKana entry.1.1 && isKana entry.1.2 && entry.1.2 != geminate &&
        entry.1.2 != moraicNasal && !entry.2.isEmpty && endsInVowel entry.2 && entry.2.all isSymbol) &&
      monographs.all fun entry => !isSkipped entry.1 && entry.1 != longVowelMark && !entry.2.isEmpty &&
        endsInVowel entry.2 == (entry.1 != geminate && entry.1 != moraicNasal) && entry.2.all isSymbol) = true := by
  decide +kernel

theorem soundPair_of_mem {first second : Char} {syllable : List String}
    (listed : ((first, second), syllable) ∈ digraphs) : SoundPair first second syllable := by
  have sound := List.all_eq_true.1 (Bool.and_eq_true_iff.1 tables_sound).1 _ listed
  simp only [Bool.and_eq_true, bne_iff_ne, Bool.not_eq_true', List.isEmpty_eq_false_iff, List.all_eq_true] at sound
  obtain ⟨⟨⟨⟨⟨⟨first, second⟩, notGeminate⟩, notNasal⟩, nonempty⟩, vowel⟩, symbols⟩ := sound
  exact ⟨first, second, notGeminate, notNasal, nonempty, vowel, symbols⟩

theorem soundKana_of_mem {kana : Char} {syllable : List String} (listed : (kana, syllable) ∈ monographs) :
    SoundKana kana syllable := by
  have sound := List.all_eq_true.1 (Bool.and_eq_true_iff.1 tables_sound).2 _ listed
  simp only [Bool.and_eq_true, bne_iff_ne, Bool.not_eq_true', List.isEmpty_eq_false_iff, List.all_eq_true,
    beq_iff_eq] at sound
  obtain ⟨⟨⟨⟨notSkipped, notMark⟩, nonempty⟩, vowel⟩, symbols⟩ := sound
  exact ⟨notSkipped, notMark, nonempty, vowel, symbols⟩

/-- Every phone of a text is written with letters. -/
theorem haveSymbols_of_phonesWith {phones : List Phone} {offset : Nat} {text : List Char}
    (done : phonesWith digraphs [] offset text = .ok phones) :
    HaveSymbols (fun symbol => isSymbol symbol = true) phones := by
  refine HaveSymbols.phonesWith (fun entry listed => ?_) (fun entry listed => ?_) ?_ done
  · exact (soundPair_of_mem listed).symbols
  · exact (soundKana_of_mem listed).symbols
  · exact fun _ member => absurd member List.not_mem_nil

/-! ## What the last kana is -/

theorem isSome_lengthen_say {syllable : List String} (nonempty : syllable ≠ []) (said : List Phone) :
    (lengthen (say syllable said)).isSome = endsInVowel syllable := by
  obtain ⟨before, last, rfl⟩ := (List.eq_nil_or_concat' syllable).resolve_left nonempty
  have saidLast : say (before ++ [last]) said = ⟨last, false⟩ :: say before said := by simp [say]
  rw [saidLast, lengthen, endsInVowel, List.getLast?_concat]
  split <;> simp_all

/-- What is long stays as it is. -/
theorem lengthen_lengthened {said longer : List Phone} (lengthened : lengthen said = some longer) :
    lengthen longer = some longer := by
  cases said with
  | nil => cases lengthened
  | cons phone before =>
    rw [lengthen] at lengthened
    split at lengthened
    · rename_i vowel
      cases lengthened
      rw [lengthen, if_pos vowel]
    · cases lengthened

section LastKana

variable {before : List Char} {c : Char}

/-- What is passed over does not change what a mark lengthens. -/
theorem canLengthen_passed (passed : isSkipped c = true ∨ c = longVowelMark) :
    canLengthen (before ++ [c]) = canLengthen before := by
  have notLast : (!isSkipped c && c != longVowelMark) = false := by
    obtain skipped | mark := passed
    · simp [skipped]
    · simp [mark]
  rw [canLengthen, canLengthen, lastKana?, lastKana?, List.reverse_append, List.reverse_singleton,
    List.singleton_append, List.find?_cons_of_neg (by simp [notLast])]

/-- A kana is neither skipped nor a mark. -/
theorem sounded_of_isKana (kana : isKana c = true) : isSkipped c = false ∧ c ≠ longVowelMark := by
  obtain ⟨syllable, found⟩ := Option.isSome_iff_exists.1 kana
  have sound := soundKana_of_mem (mem_of_lookup found)
  exact ⟨sound.notSkipped, sound.notMark⟩

theorem canLengthen_kana (kana : isKana c = true) :
    canLengthen (before ++ [c]) = (c != geminate && c != moraicNasal) := by
  obtain ⟨notSkipped, notMark⟩ := sounded_of_isKana kana
  have last : lastKana? (before ++ [c]) = some c := by
    rw [lastKana?, List.reverse_append, List.reverse_singleton, List.singleton_append]
    exact List.find?_cons_of_pos (by simp [notSkipped, notMark])
  rw [canLengthen, last]
  simp only [kana, Bool.true_and]

theorem isSayable_skipped (skipped : isSkipped c = true) : isSayable before c = true := by
  have notMark : c ≠ longVowelMark := by
    rintro rfl
    rw [not_isSkipped_longVowelMark] at skipped
    cases skipped
  simp [isSayable, skipped, notMark]

theorem isSayable_mark : isSayable before longVowelMark = canLengthen before := by
  simp [isSayable]

theorem isSayable_kana (kana : isKana c = true) : isSayable before c = true := by
  simp [isSayable, kana, (sounded_of_isKana kana).2]

theorem not_isSayable_stray (notSkipped : isSkipped c = false) (notMark : c ≠ longVowelMark)
    (noKana : isKana c = false) :
    isSayable before c = false := by
  simp [isSayable, notSkipped, notMark, noKana]

end LastKana

/-! ## Reading up to the first one -/

section Stops

variable {pairs : PairTable} (smaller : pairs ⊆ digraphs)

include smaller

/-- Reading stops at the first character that cannot be said. What was said before can be lengthened if the text before
says so; each piece keeps that. -/
theorem phonesWith_eq_error_iff {said : List Phone} {before : List Char} {offset : Nat} {text : List Char}
    {stop : Nat × Char} (agree : (lengthen said).isSome = canLengthen before) :
    phonesWith pairs said offset text = .error stop ↔ unsayable? before offset text = some stop := by
  induction text using reading_induction pairs generalizing said before offset with
  | nil => simp [phonesWith_nil, unsayable?]
  | skipped c rest skipped ih =>
    rw [phonesWith_skipped skipped, unsayable?, if_pos (isSayable_skipped skipped)]
    exact ih (agree.trans (canLengthen_passed (.inl skipped)).symm)
  | mark c rest mark ih =>
    have sayable : isSayable before (katakana c) = (lengthen said).isSome := by rw [mark, isSayable_mark, agree]
    cases lengthened : lengthen said with
    | none =>
      rw [lengthened] at sayable
      rw [phonesWith_idle_mark mark lengthened, unsayable?, if_neg (by simp [sayable])]
      simp
    | some longer =>
      rw [lengthened, Option.isSome_some] at sayable agree
      rw [phonesWith_mark mark lengthened, unsayable?, if_pos sayable]
      refine ih ?_
      rw [lengthen_lengthened lengthened, canLengthen_passed (.inr mark)]
      exact agree
  | pair c d rest syllable sounded found ih =>
    have sound := soundPair_of_mem (smaller (mem_of_lookup found))
    rw [phonesWith_pair sounded found, unsayable?, if_pos (isSayable_kana sound.isFirst), unsayable?,
      if_pos (isSayable_kana sound.isSecond)]
    refine ih ?_
    rw [isSome_lengthen_say sound.nonempty, sound.vowel, canLengthen_kana sound.isSecond]
    simp [sound.notGeminate, sound.notNasal]
  | single c rest syllable sounded alone found ih =>
    have sound := soundKana_of_mem (mem_of_lookup found)
    have kana : isKana (katakana c) = true := by simp [isKana, found]
    rw [phonesWith_single sounded alone found, unsayable?, if_pos (isSayable_kana kana)]
    refine ih ?_
    rw [isSome_lengthen_say sound.nonempty, sound.vowel, canLengthen_kana kana]
  | stray c rest sounded alone unknown =>
    have noKana : isKana (katakana c) = false := by simp [isKana, unknown]
    have unsayable := @not_isSayable_stray before _ sounded.1 sounded.2 noKana
    rw [phonesWith_stray sounded alone unknown, unsayable?, if_neg (by simp [unsayable])]
    simp

theorem exists_phonesWith_iff {said : List Phone} {before : List Char} {offset : Nat} {text : List Char}
    (agree : (lengthen said).isSome = canLengthen before) :
    (∃ phones, phonesWith pairs said offset text = .ok phones) ↔ unsayable? before offset text = none := by
  have stops : ∀ stop, phonesWith pairs said offset text = .error stop ↔ unsayable? before offset text = some stop :=
    fun _ => phonesWith_eq_error_iff smaller agree
  cases result : phonesWith pairs said offset text with
  | ok phones =>
    have free : unsayable? before offset text = none := by
      refine Option.eq_none_iff_forall_ne_some.2 fun stop found => ?_
      have failed := (stops stop).2 found
      rw [result] at failed
      cases failed
    simp [free]
  | error stop => simp [(stops stop).1 result]

end Stops

/-! ## Whole texts -/

theorem kana_eq_ok_iff {text phones : String} : kana text = .ok phones ↔
    ∃ list, phonesWith digraphs [] 0 text.toList = .ok list ∧ " ".intercalate (list.map Phone.text) = phones := by
  rw [kana, phonesFrom_eq_phonesWith]
  split
  · rename_i list done
    simp [done]
  · rename_i offset char failed
    simp [failed]

theorem kana_eq_error_iff {text : String} {error : Unpronounceable} : kana text = .error error ↔
    ∃ (i : Nat) (c : Char), phonesWith digraphs [] 0 text.toList = .error (i, c) ∧ ⟨text, i, c⟩ = error := by
  rw [kana, phonesFrom_eq_phonesWith]
  split
  · rename_i list done
    simp [done]
  · rename_i offset char failed
    simp [failed]

/-- A text has phones if every character can be said after those before it. Otherwise the character that is pointed at
is the first one that cannot be said. It is the same one if some pairs, or all of them, are read as two kana. -/
theorem kana_eq_error_iff_unsayable (text : String) :
    ((∃ phones, kana text = .ok phones) ↔ ∀ i < text.length, IsSayableAt (toKatakana text).toList i) ∧
      (∀ error, kana text = .error error ↔ ∃ (i : Nat) (c : Char), error = ⟨text, i, c⟩ ∧ text.toList[i]? = some c ∧
        ¬IsSayableAt (toKatakana text).toList i ∧ ∀ j < i, IsSayableAt (toKatakana text).toList j) ∧
      ∀ pairs, pairs ⊆ digraphs → ∀ stop,
        phonesWith pairs [] 0 text.toList = .error stop ↔ phonesFrom [] 0 text.toList = .error stop := by
  have characters : (toKatakana text).toList = text.toList.map katakana := String.toList_ofList
  have idle : (lengthen []).isSome = canLengthen [] := rfl
  have all : ∀ pairs, pairs ⊆ digraphs → ∀ stop, phonesWith pairs [] 0 text.toList = .error stop ↔
      unsayable? [] 0 text.toList = some stop := fun _ smaller _ => phonesWith_eq_error_iff smaller idle
  have stops := all digraphs (List.Subset.refl _)
  rw [characters]
  refine ⟨?_, fun error => ?_, fun pairs smaller stop => ?_⟩
  · have whole : unsayable? [] 0 text.toList = none ↔ ∀ i, IsSayableAt (text.toList.map katakana) i := by
      simpa using @unsayable?_eq_none_iff [] text.toList 0
    have within : (∀ i < text.length, IsSayableAt (text.toList.map katakana) i) ↔
        ∀ i, IsSayableAt (text.toList.map katakana) i := by
      refine ⟨fun small i => ?_, fun all i _ => all i⟩
      obtain inside | outside := Nat.lt_or_ge i text.length
      · exact small i inside
      · have past : (text.toList.map katakana).length ≤ i := by simpa [String.length_toList] using outside
        simp [IsSayableAt, List.getElem?_eq_none past]
    rw [within, ← whole, ← exists_phonesWith_iff (List.Subset.refl _) idle]
    simp only [kana_eq_ok_iff]
    constructor
    · rintro ⟨_, list, done, _⟩
      exact ⟨list, done⟩
    · rintro ⟨list, done⟩
      exact ⟨_, list, done, rfl⟩
  · simp only [kana_eq_error_iff, stops, unsayable?_eq_some_iff, List.nil_append, List.length_nil, Nat.zero_add]
    constructor
    · rintro ⟨i, c, ⟨_, rfl, found, least⟩, rfl⟩
      exact ⟨i, c, rfl, found, least⟩
    · rintro ⟨i, c, rfl, found, least⟩
      exact ⟨i, c, ⟨i, rfl, found, least⟩, rfl⟩
  · rw [phonesFrom_eq_phonesWith, all pairs smaller, stops]

end Utterance.Phonetic
