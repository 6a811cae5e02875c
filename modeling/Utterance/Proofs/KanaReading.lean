import Mathlib.Data.List.Basic
import Utterance.Phonetic.Kana

/-!
# Reading kana

A text of kana is read in pieces: a character that is skipped, a mark of length, a pair, a single kana, or a character
that has no phones. There is one equation for each, and `reading_induction` goes along a text in the same pieces, which
depend on the text alone. The table of pairs is left open; `phonesFrom` reads with the table of all pairs.
-/

namespace Utterance.Phonetic
set_option autoImplicit false

/-- Pairs of kana and their phones. -/
abbrev PairTable := List ((Char × Char) × List String)

/-- The phones of a text as in `phonesFrom`, the pairs being those of a given table. -/
def phonesWith (pairs : PairTable) (said : List Phone) (offset : Nat) : List Char → Except (Nat × Char) (List Phone)
  | [] => .ok said.reverse
  | c :: rest =>
    let kana := katakana c
    if isSkipped kana then phonesWith pairs said (offset + 1) rest
    else if kana = longVowelMark then
      match lengthen said with
      | some said => phonesWith pairs said (offset + 1) rest
      | none => .error (offset, c)
    else
      match rest with
      | [] =>
        match monograph? kana with
        | some syllable => .ok (say syllable said).reverse
        | none => .error (offset, c)
      | d :: after =>
        match pairs.lookup (kana, katakana d), monograph? kana with
        | some syllable, _ => phonesWith pairs (say syllable said) (offset + 2) after
        | none, some syllable => phonesWith pairs (say syllable said) (offset + 1) (d :: after)
        | none, none => .error (offset, c)

/-- The character makes no pair with the one after it. -/
def IsAlone (pairs : PairTable) (c : Char) (rest : List Char) : Prop :=
  ∀ d ∈ rest.head?, pairs.lookup (katakana c, katakana d) = none

/-- The character is neither skipped nor a mark. -/
def IsSounded (c : Char) : Prop :=
  isSkipped (katakana c) = false ∧ katakana c ≠ longVowelMark

theorem not_isSkipped_longVowelMark : isSkipped longVowelMark = false := by decide

/-! ## One piece -/

section Equations

variable {pairs : PairTable} {said : List Phone} {offset : Nat} {c d : Char} {rest : List Char} {syllable : List String}

theorem phonesWith_nil : phonesWith pairs said offset [] = .ok said.reverse := rfl

-- The equation that Lean derives from the definition takes long to make.
theorem phonesWith_cons : phonesWith pairs said offset (c :: rest) =
    if isSkipped (katakana c) then phonesWith pairs said (offset + 1) rest
    else if katakana c = longVowelMark then
      match lengthen said with
      | some said => phonesWith pairs said (offset + 1) rest
      | none => .error (offset, c)
    else
      match rest with
      | [] =>
        match monograph? (katakana c) with
        | some syllable => .ok (say syllable said).reverse
        | none => .error (offset, c)
      | d :: after =>
        match pairs.lookup (katakana c, katakana d), monograph? (katakana c) with
        | some syllable, _ => phonesWith pairs (say syllable said) (offset + 2) after
        | none, some syllable => phonesWith pairs (say syllable said) (offset + 1) (d :: after)
        | none, none => .error (offset, c) := by
  cases rest <;> rfl

theorem phonesWith_skipped (skipped : isSkipped (katakana c) = true) :
    phonesWith pairs said offset (c :: rest) = phonesWith pairs said (offset + 1) rest := by
  rw [phonesWith_cons, if_pos skipped]

theorem phonesWith_mark (mark : katakana c = longVowelMark) {longer : List Phone}
    (lengthened : lengthen said = some longer) :
    phonesWith pairs said offset (c :: rest) = phonesWith pairs longer (offset + 1) rest := by
  have notSkipped : ¬isSkipped (katakana c) = true := by simp [mark, not_isSkipped_longVowelMark]
  rw [phonesWith_cons, if_neg notSkipped, if_pos mark, lengthened]

theorem phonesWith_idle_mark (mark : katakana c = longVowelMark) (idle : lengthen said = none) :
    phonesWith pairs said offset (c :: rest) = .error (offset, c) := by
  have notSkipped : ¬isSkipped (katakana c) = true := by simp [mark, not_isSkipped_longVowelMark]
  rw [phonesWith_cons, if_neg notSkipped, if_pos mark, idle]

theorem phonesWith_pair (sounded : IsSounded c) (found : pairs.lookup (katakana c, katakana d) = some syllable) :
    phonesWith pairs said offset (c :: d :: rest) = phonesWith pairs (say syllable said) (offset + 2) rest := by
  rw [phonesWith_cons, if_neg (by simp [sounded.1]), if_neg sounded.2]
  simp only [found]

theorem phonesWith_single (sounded : IsSounded c) (alone : IsAlone pairs c rest)
    (found : monograph? (katakana c) = some syllable) :
    phonesWith pairs said offset (c :: rest) = phonesWith pairs (say syllable said) (offset + 1) rest := by
  rw [phonesWith_cons, if_neg (by simp [sounded.1]), if_neg sounded.2]
  cases rest with
  | nil => simp only [found, phonesWith_nil]
  | cons d after => simp only [found, alone d rfl]

theorem phonesWith_stray (sounded : IsSounded c) (alone : IsAlone pairs c rest)
    (unknown : monograph? (katakana c) = none) :
    phonesWith pairs said offset (c :: rest) = .error (offset, c) := by
  rw [phonesWith_cons, if_neg (by simp [sounded.1]), if_neg sounded.2]
  cases rest with
  | nil => simp only [unknown]
  | cons d after => simp only [unknown, alone d rfl]

end Equations

/-! ## Piece after piece -/

/-- Induction along a text in the pieces that it is read in. -/
@[elab_as_elim]
theorem reading_induction (pairs : PairTable) {motive : List Char → Prop} (nil : motive [])
    (skipped : ∀ c rest, isSkipped (katakana c) = true → motive rest → motive (c :: rest))
    (mark : ∀ c rest, katakana c = longVowelMark → motive rest → motive (c :: rest))
    (pair : ∀ c d rest syllable, IsSounded c → pairs.lookup (katakana c, katakana d) = some syllable → motive rest →
      motive (c :: d :: rest))
    (single : ∀ c rest syllable, IsSounded c → IsAlone pairs c rest → monograph? (katakana c) = some syllable →
      motive rest → motive (c :: rest))
    (stray : ∀ c rest, IsSounded c → IsAlone pairs c rest → monograph? (katakana c) = none → motive (c :: rest))
    (text : List Char) : motive text := by
  -- A pair takes two characters at once, so the induction is on the length.
  induction size : text.length using Nat.strongRecOn generalizing text with
  | ind n ih =>
    subst size
    cases text with
    | nil => exact nil
    | cons c rest =>
      have later : motive rest := ih rest.length (Nat.lt_succ_self _) rest rfl
      by_cases isSkip : isSkipped (katakana c) = true
      · exact skipped c rest isSkip later
      by_cases isMark : katakana c = longVowelMark
      · exact mark c rest isMark later
      have sounded : IsSounded c := ⟨by simpa using isSkip, isMark⟩
      by_cases alone : IsAlone pairs c rest
      · cases known : monograph? (katakana c) with
        | none => exact stray c rest sounded alone known
        | some syllable => exact single c rest syllable sounded alone known later
      · simp only [IsAlone, not_forall] at alone
        obtain ⟨d, next, paired⟩ := alone
        obtain ⟨after, rfl⟩ : ∃ after, rest = d :: after := List.head?_eq_some_iff.1 next
        obtain ⟨syllable, found⟩ := Option.ne_none_iff_exists'.1 paired
        have shorter : after.length < (c :: d :: after).length := by
          simp only [List.length_cons]
          omega
        exact pair c d after syllable sounded found (ih after.length shorter after rfl)

/-- `phonesFrom` reads with the table of all pairs. -/
theorem phonesFrom_eq_phonesWith : (said : List Phone) → (offset : Nat) → (text : List Char) →
    phonesFrom said offset text = phonesWith digraphs said offset text
  | _, _, [] => rfl
  | _, _, [_] => rfl
  | said, offset, c :: d :: after => by
    have fromNext := fun said offset => phonesFrom_eq_phonesWith said offset (d :: after)
    have afterPair := fun said offset => phonesFrom_eq_phonesWith said offset after
    have step : phonesFrom said offset (c :: d :: after) =
        if isSkipped (katakana c) then phonesFrom said (offset + 1) (d :: after)
        else if katakana c = longVowelMark then
          match lengthen said with
          | some said => phonesFrom said (offset + 1) (d :: after)
          | none => .error (offset, c)
        else
          match digraphs.lookup (katakana c, katakana d), monograph? (katakana c) with
          | some syllable, _ => phonesFrom (say syllable said) (offset + 2) after
          | none, some syllable => phonesFrom (say syllable said) (offset + 1) (d :: after)
          | none, none => .error (offset, c) := rfl
    rw [step, phonesWith_cons]
    simp only [fromNext, afterPair]

/-! ## What reading keeps -/

theorem mem_of_lookup {α β : Type} [BEq α] [LawfulBEq α] {key : α} {value : β} {table : List (α × β)}
    (found : table.lookup key = some value) : (key, value) ∈ table := by
  obtain ⟨before, after, rfl, _⟩ := List.lookup_eq_some_iff.1 found
  simp

/-- What is kept by saying a syllable of either table and by lengthening is kept by reading. -/
theorem invariant_of_phonesWith {pairs : PairTable} (holds : List Phone → Prop)
    (ofPair : ∀ entry ∈ pairs, ∀ said, holds said → holds (say entry.2 said))
    (ofKana : ∀ entry ∈ monographs, ∀ said, holds said → holds (say entry.2 said))
    (ofMark : ∀ said longer, lengthen said = some longer → holds said → holds longer)
    {said phones : List Phone} {offset : Nat} {text : List Char} (before : holds said)
    (done : phonesWith pairs said offset text = .ok phones) : holds phones.reverse := by
  induction text using reading_induction pairs generalizing said offset with
  | nil =>
    cases done
    rwa [List.reverse_reverse]
  | skipped c rest skipped ih =>
    rw [phonesWith_skipped skipped] at done
    exact ih before done
  | mark c rest mark ih =>
    cases lengthened : lengthen said with
    | none =>
      rw [phonesWith_idle_mark mark lengthened] at done
      cases done
    | some longer =>
      rw [phonesWith_mark mark lengthened] at done
      exact ih (ofMark said longer lengthened before) done
  | pair c d rest syllable sounded found ih =>
    rw [phonesWith_pair sounded found] at done
    exact ih (ofPair _ (mem_of_lookup found) said before) done
  | single c rest syllable sounded alone found ih =>
    rw [phonesWith_single sounded alone found] at done
    exact ih (ofKana _ (mem_of_lookup found) said before) done
  | stray c rest sounded alone unknown =>
    rw [phonesWith_stray sounded alone unknown] at done
    cases done

/-- Every phone has a symbol with a property. -/
def HaveSymbols (holds : String → Prop) (phones : List Phone) : Prop :=
  ∀ phone ∈ phones, holds phone.symbol

namespace HaveSymbols

variable {holds : String → Prop} {said : List Phone}

theorem say {syllable : List String} (before : HaveSymbols holds said) (all : ∀ symbol ∈ syllable, holds symbol) :
    HaveSymbols holds (say syllable said) := by
  intro phone member
  obtain new | old := List.mem_append.1 member
  · obtain ⟨symbol, listed, rfl⟩ := List.mem_map.1 (List.mem_reverse.1 new)
    exact all symbol listed
  · exact before phone old

theorem lengthen {longer : List Phone} (before : HaveSymbols holds said) (done : lengthen said = some longer) :
    HaveSymbols holds longer := by
  cases said with
  | nil => cases done
  | cons phone others =>
    rw [Phonetic.lengthen] at done
    split at done
    · cases done
      exact List.forall_mem_cons.2 (List.forall_mem_cons.1 before)
    · cases done

/-- What holds of the symbols of both tables holds of every symbol that is said. -/
theorem phonesWith {pairs : PairTable} (ofPair : ∀ entry ∈ pairs, ∀ symbol ∈ entry.2, holds symbol)
    (ofKana : ∀ entry ∈ monographs, ∀ symbol ∈ entry.2, holds symbol) {phones : List Phone} {offset : Nat}
    {text : List Char} (before : HaveSymbols holds said) (done : phonesWith pairs said offset text = .ok phones) :
    HaveSymbols holds phones := by
  have kept : HaveSymbols holds phones.reverse := by
    refine invariant_of_phonesWith (HaveSymbols holds) (fun entry listed _ said => ?_) (fun entry listed _ said => ?_) ?_
      before done
    · exact said.say (ofPair entry listed)
    · exact said.say (ofKana entry listed)
    · exact fun _ _ lengthened said => said.lengthen lengthened
  exact fun phone member => kept phone (List.mem_reverse.2 member)

end HaveSymbols

end Utterance.Phonetic
