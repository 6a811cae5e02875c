import Utterance.Proofs.Basic
import Utterance.Proofs.KanaSeam

/-!
# What makes no difference in kana

A space that tears no pair apart, a second mark after a mark, and the choice between hiragana and katakana leave the
phones of a text as they are (`outcome_neutral`). What fails still fails at the same character, which stands one place
further on if something was put in before it.
-/

namespace Utterance.Phonetic
set_option autoImplicit false

/-- What a text comes to: its phones, or the place of the first character that cannot be said. -/
def outcome (text : String) : Except Int String :=
  (kana text).mapError Unpronounceable.position

/-- Where a place is after a character was put in at `start`. -/
def moved (start : Nat) (place : Int) : Int :=
  if place < start then place else place + 1

/-- A text in which any of the hiragana may have become katakana. -/
def IsRespelled (text respelled : List Char) : Prop :=
  List.Forall₂ (fun c d => d = c ∨ d = katakana c) text respelled

/-! ## Hiragana and katakana -/

theorem toNat_katakana (c : Char) : (katakana c).toNat =
    if 0x3041 ≤ c.toNat ∧ c.toNat ≤ 0x3096 then c.toNat + 0x60 else c.toNat := by
  simp only [katakana, Bool.and_eq_true, decide_eq_true_eq]
  split
  · rename_i hiragana
    have valid : (c.toNat + 0x60).isValidChar := by
      left
      omega
    rw [Char.ofNat, dif_pos valid]
    rfl
  · rfl

/-- There are no hiragana among katakana. -/
theorem katakana_katakana (c : Char) : katakana (katakana c) = katakana c := by
  have outside : ¬(0x3041 ≤ (katakana c).toNat ∧ (katakana c).toNat ≤ 0x3096) := by
    rw [toNat_katakana]
    split <;> omega
  generalize katakana c = k at outside
  simp [katakana, outside]

theorem isSkipped_katakana (c : Char) : isSkipped (katakana c) = isSkipped c := by
  have code := toNat_katakana c
  by_cases hiragana : 0x3041 ≤ c.toNat ∧ c.toNat ≤ 0x3096
  · rw [if_pos hiragana] at code
    have notSkipped : ∀ k : Char, 0x3041 ≤ k.toNat → isSkipped k = false := by
      intro k large
      simp only [isSkipped, Bool.or_eq_false_iff, decide_eq_false_iff_not]
      refine ⟨⟨?_, ?_⟩, ?_⟩ <;> rintro rfl <;> revert large <;> decide
    rw [notSkipped c hiragana.1, notSkipped (katakana c) (by omega)]
  · simp [katakana, hiragana]

theorem IsRespelled.map_katakana {text respelled : List Char} (same : IsRespelled text respelled) :
    respelled.map katakana = text.map katakana := by
  induction same with
  | nil => rfl
  | cons choice _ ih =>
    rw [List.map_cons, List.map_cons, ih]
    obtain rfl | rfl := choice
    · rfl
    · rw [katakana_katakana]

section Reading

variable {pairs : PairTable} {said : List Phone} {offset : Nat}

/-- Reading katakana instead goes the same way, and stops at the same place. -/
theorem phonesWith_map_katakana (text : List Char) :
    (phonesWith pairs said offset (text.map katakana)).mapError Prod.fst =
      (phonesWith pairs said offset text).mapError Prod.fst := by
  induction text using reading_induction pairs generalizing said offset with
  | nil => rfl
  | skipped c rest skipped ih =>
    have skippedToo : isSkipped (katakana (katakana c)) = true := by rw [katakana_katakana, skipped]
    rw [List.map_cons, phonesWith_skipped skippedToo, phonesWith_skipped skipped, ih]
  | mark c rest mark ih =>
    have markToo : katakana (katakana c) = longVowelMark := by rw [katakana_katakana, mark]
    cases lengthened : lengthen said with
    | none =>
      rw [List.map_cons, phonesWith_idle_mark markToo lengthened, phonesWith_idle_mark mark lengthened]
      rfl
    | some longer =>
      rw [List.map_cons, phonesWith_mark markToo lengthened, phonesWith_mark mark lengthened, ih]
  | pair c d rest syllable sounded found ih =>
    have soundedToo : IsSounded (katakana c) := by simpa only [IsSounded, katakana_katakana] using sounded
    have foundToo : pairs.lookup (katakana (katakana c), katakana (katakana d)) = some syllable := by
      rw [katakana_katakana, katakana_katakana, found]
    rw [List.map_cons, List.map_cons, phonesWith_pair soundedToo foundToo, phonesWith_pair sounded found, ih]
  | single c rest syllable sounded alone found ih =>
    have soundedToo : IsSounded (katakana c) := by simpa only [IsSounded, katakana_katakana] using sounded
    have aloneToo : IsAlone pairs (katakana c) (rest.map katakana) := by
      simpa [IsAlone, katakana_katakana] using alone
    have foundToo : monograph? (katakana (katakana c)) = some syllable := by rw [katakana_katakana, found]
    rw [List.map_cons, phonesWith_single soundedToo aloneToo foundToo, phonesWith_single sounded alone found, ih]
  | stray c rest sounded alone unknown =>
    have soundedToo : IsSounded (katakana c) := by simpa only [IsSounded, katakana_katakana] using sounded
    have aloneToo : IsAlone pairs (katakana c) (rest.map katakana) := by
      simpa [IsAlone, katakana_katakana] using alone
    have unknownToo : monograph? (katakana (katakana c)) = none := by rw [katakana_katakana, unknown]
    rw [List.map_cons, phonesWith_stray soundedToo aloneToo unknownToo, phonesWith_stray sounded alone unknown]
    rfl

/-! ## One more character -/

/-- Places are counted from where reading starts, and nothing else depends on that. -/
theorem phonesWith_add_offset (more : Nat) (text : List Char) : phonesWith pairs said (offset + more) text =
    (phonesWith pairs said offset text).mapError fun stop => (stop.1 + more, stop.2) := by
  induction text using reading_induction pairs generalizing said offset with
  | nil => rfl
  | skipped c rest skipped ih =>
    rw [phonesWith_skipped skipped, phonesWith_skipped skipped, Nat.add_right_comm, ih]
  | mark c rest mark ih =>
    cases lengthened : lengthen said with
    | none =>
      rw [phonesWith_idle_mark mark lengthened, phonesWith_idle_mark mark lengthened]
      rfl
    | some longer =>
      rw [phonesWith_mark mark lengthened, phonesWith_mark mark lengthened, Nat.add_right_comm, ih]
  | pair c d rest syllable sounded found ih =>
    rw [phonesWith_pair sounded found, phonesWith_pair sounded found, Nat.add_right_comm, ih]
  | single c rest syllable sounded alone found ih =>
    rw [phonesWith_single sounded alone found, phonesWith_single sounded alone found, Nat.add_right_comm, ih]
  | stray c rest sounded alone unknown =>
    rw [phonesWith_stray sounded alone unknown, phonesWith_stray sounded alone unknown]
    rfl

theorem le_of_phonesWith {text : List Char} {stop : Nat × Char}
    (failed : phonesWith pairs said offset text = .error stop) : offset ≤ stop.1 := by
  rw [← Nat.zero_add offset, phonesWith_add_offset, mapError_eq_error_iff] at failed
  obtain ⟨earlier, _, rfl⟩ := failed
  exact Nat.le_add_left offset earlier.1

end Reading

/-- A text is read from the start only up to its end. -/
theorem lt_length_of_phonesWith {text : List Char} {stop : Nat × Char}
    (failed : phonesWith digraphs [] 0 text = .error stop) : stop.1 < text.length := by
  have idle : (lengthen []).isSome = canLengthen [] := rfl
  have first := (phonesWith_eq_error_iff (List.Subset.refl _) idle).1 failed
  obtain ⟨i, place, found, _, _⟩ := unsayable?_eq_some_iff.1 first
  have inside : i < text.length := (List.getElem?_eq_some_iff.1 found).1
  omega

/-- The character can be put in after a text: whatever follows is read as if it was not there. -/
def IsNeutralAfter (first : List Char) (c : Char) : Prop :=
  ∀ phones, phonesWith digraphs [] 0 first = .ok phones → ∀ offset second,
    phonesWith digraphs phones.reverse offset (c :: second) = phonesWith digraphs phones.reverse (offset + 1) second

section Insertion

variable {first second : List Char} {c : Char}

/-- A neutral character changes nothing but the places after it. -/
theorem phonesWith_insert (seam : IsSeam digraphs first second) (seamToo : IsSeam digraphs first (c :: second))
    (neutral : IsNeutralAfter first c) :
    (phonesWith digraphs [] 0 (first ++ c :: second)).mapError (fun stop => (stop.1 : Int)) =
      (phonesWith digraphs [] 0 (first ++ second)).mapError fun stop => moved first.length stop.1 := by
  rw [phonesWith_append_bind seam, phonesWith_append_bind seamToo]
  cases before : phonesWith digraphs [] 0 first with
  | error stop =>
    have early : (stop.1 : Int) < first.length := by exact_mod_cast lt_length_of_phonesWith before
    show Except.error (stop.1 : Int) = Except.error (moved first.length stop.1)
    rw [moved, if_pos early]
  | ok phones =>
    show (phonesWith digraphs phones.reverse (0 + first.length) (c :: second)).mapError _ =
      (phonesWith digraphs phones.reverse (0 + first.length) second).mapError _
    rw [neutral phones before, phonesWith_add_offset]
    cases after : phonesWith digraphs phones.reverse (0 + first.length) second with
    | ok all => rfl
    | error stop =>
      have late : ¬(stop.1 : Int) < first.length := by
        have := le_of_phonesWith after
        omega
      show Except.error ((stop.1 + 1 : Nat) : Int) = Except.error (moved first.length stop.1)
      rw [moved, if_neg late]
      rfl

/-- What is no kana is in no pair. -/
theorem isAlone_of_not_isKana (other : isKana (katakana c) = false) (rest : List Char) : IsAlone digraphs c rest := by
  intro d _
  refine Option.eq_none_iff_forall_ne_some.2 fun syllable found => ?_
  have kana := (soundPair_of_mem (mem_of_lookup found)).isFirst
  rw [other] at kana
  cases kana

theorem isSeam_of_not_isKana (other : isKana (katakana c) = false) (first rest : List Char) :
    IsSeam digraphs first (c :: rest) := by
  rintro b _ _ ⟨⟩
  refine Option.eq_none_iff_forall_ne_some.2 fun syllable found => ?_
  have kana := (soundPair_of_mem (mem_of_lookup found)).isSecond
  rw [other] at kana
  cases kana

theorem not_isKana_of_isSkipped {k : Char} (skipped : isSkipped k = true) : isKana k = false := by
  refine Bool.eq_false_iff.2 fun kana => ?_
  rw [(sounded_of_isKana kana).1] at skipped
  cases skipped

theorem not_isKana_longVowelMark : isKana longVowelMark = false :=
  Bool.eq_false_iff.2 fun kana => (sounded_of_isKana kana).2 rfl

theorem katakana_longVowelMark : katakana longVowelMark = longVowelMark := by decide

theorem isNeutralAfter_skipped (skipped : isSkipped (katakana c) = true) (first : List Char) : IsNeutralAfter first c :=
  fun _ _ _ _ => phonesWith_skipped skipped

/-- After a mark, the last phone is long already. -/
theorem isNeutralAfter_mark (first : List Char) : IsNeutralAfter (first ++ [longVowelMark]) longVowelMark := by
  intro phones done offset second
  have notKana : isKana (katakana longVowelMark) = false := by
    rw [katakana_longVowelMark, not_isKana_longVowelMark]
  have seam := isSeam_of_not_isKana notKana first []
  rw [phonesWith_append_bind seam] at done
  cases before : phonesWith digraphs [] 0 first with
  | error stop =>
    rw [before] at done
    cases done
  | ok list =>
    rw [before, Except.bind] at done
    cases lengthened : lengthen list.reverse with
    | none =>
      rw [phonesWith_idle_mark katakana_longVowelMark lengthened] at done
      cases done
    | some longer =>
      rw [phonesWith_mark katakana_longVowelMark lengthened, phonesWith_nil] at done
      obtain rfl : longer.reverse = phones := Except.ok.inj done
      rw [List.reverse_reverse]
      exact phonesWith_mark katakana_longVowelMark (lengthen_lengthened lengthened)

end Insertion

/-! ## Whole texts -/

/-- The phones are written from the list that reading gives, and places are those of reading. -/
theorem outcome_eq (text : String) : outcome text =
    ((phonesWith digraphs [] 0 text.toList).mapError fun stop => (stop.1 : Int)).map fun phones =>
      " ".intercalate (phones.map Phone.text) := by
  rw [outcome, kana, phonesFrom_eq_phonesWith]
  cases phonesWith digraphs [] 0 text.toList <;> rfl

theorem outcome_insert {first second : String} {c : Char} (seam : IsSeam digraphs first.toList second.toList)
    (seamToo : IsSeam digraphs first.toList (c :: second.toList)) (neutral : IsNeutralAfter first.toList c) :
    outcome (first ++ String.singleton c ++ second) = (outcome (first ++ second)).mapError (moved first.length) := by
  have inserted : (first ++ String.singleton c ++ second).toList = first.toList ++ c :: second.toList := by simp
  rw [outcome_eq, outcome_eq, inserted, String.toList_append, phonesWith_insert seam seamToo neutral,
    String.length_toList]
  cases phonesWith digraphs [] 0 (first.toList ++ second.toList) <;> rfl

/-- A second mark after a mark, a space where it tears no pair apart, and katakana for any of the hiragana leave the
phones of a text as they are. If the text has none, it still has none, because of the same character: this stands where
it stood, or one place further on if something was put in before it. -/
theorem outcome_neutral (first second : String) :
    outcome (first ++ String.singleton longVowelMark ++ String.singleton longVowelMark ++ second) =
        (outcome (first ++ String.singleton longVowelMark ++ second)).mapError (moved (first.length + 1)) ∧
      (∀ space, isSkipped space = true →
        (∀ c ∈ (toKatakana first).toList.getLast?, ∀ d ∈ (toKatakana second).toList.head?, digraph? c d = none) →
        outcome (first ++ String.singleton space ++ second) =
          (outcome (first ++ second)).mapError (moved first.length)) ∧
      ∀ respelled : String, IsRespelled first.toList respelled.toList → outcome respelled = outcome first := by
  refine ⟨?_, fun space skipped apart => ?_, fun respelled same => ?_⟩
  · have notKana : isKana (katakana longVowelMark) = false := by
      rw [katakana_longVowelMark, not_isKana_longVowelMark]
    have marked : (first ++ String.singleton longVowelMark).toList = first.toList ++ [longVowelMark] := by simp
    have length : (first ++ String.singleton longVowelMark).length = first.length + 1 := by simp
    have seam : ∀ rest, IsSeam digraphs (first ++ String.singleton longVowelMark).toList rest := by
      intro rest c last
      rw [marked, List.getLast?_concat] at last
      obtain rfl : longVowelMark = c := Option.some.inj last
      exact isAlone_of_not_isKana notKana rest
    rw [← length]
    refine outcome_insert (seam _) (seam _) ?_
    rw [marked]
    exact isNeutralAfter_mark first.toList
  · have katakanaSpace : isSkipped (katakana space) = true := by rw [isSkipped_katakana, skipped]
    refine outcome_insert ?_ ?_ (isNeutralAfter_skipped katakanaSpace _)
    · intro c last d next
      rw [Option.mem_def] at last next
      exact apart (katakana c) (by simp [toKatakana, last]) (katakana d) (by simp [toKatakana, next])
    · exact isSeam_of_not_isKana (not_isKana_of_isSkipped katakanaSpace) _ _
  · have read : (phonesWith digraphs [] 0 respelled.toList).mapError Prod.fst =
        (phonesWith digraphs [] 0 first.toList).mapError Prod.fst := by
      rw [← phonesWith_map_katakana respelled.toList, same.map_katakana, phonesWith_map_katakana]
    have places : ∀ result : Except (Nat × Char) (List Phone), result.mapError (fun stop => (stop.1 : Int)) =
        (result.mapError Prod.fst).mapError Nat.cast := by
      intro result
      cases result <;> rfl
    rw [outcome_eq, outcome_eq, places, places, read]

/-- Two kana that would make pairs with others stand at the seam, and the last character cannot be said. -/
theorem outcome_neutral_stray : isSkipped '　' = true ∧ IsRespelled "りゃ".toList "リゃ".toList ∧
    outcome ("りゃ" ++ "ゅー?") = .error 4 ∧ outcome ("りゃ" ++ String.singleton '　' ++ "ゅー?") = .error 5 ∧
    outcome "リゃ" = outcome "りゃ" := by
  have respelled : IsRespelled "りゃ".toList "リゃ".toList :=
    .cons (.inr (by decide)) (.cons (.inl rfl) .nil)
  have computed : outcome ("りゃ" ++ "ゅー?") = .error 4 ∧ digraph? 'ャ' 'ュ' = none ∧
      (toKatakana "りゃ").toList.getLast? = some 'ャ' ∧ (toKatakana "ゅー?").toList.head? = some 'ュ' := by decide +kernel
  obtain ⟨fails, noPair, lastKana, nextKana⟩ := computed
  obtain ⟨_, spaced, spelled⟩ := outcome_neutral "りゃ" "ゅー?"
  refine ⟨rfl, respelled, fails, ?_, spelled "リゃ" respelled⟩
  refine (spaced '　' rfl fun c last d next => ?_).trans ?_
  · obtain rfl : 'ャ' = c := Option.some.inj (lastKana.symm.trans last)
    obtain rfl : 'ュ' = d := Option.some.inj (nextKana.symm.trans next)
    exact noPair
  · exact congrArg (Except.mapError (moved 2)) fails

end Utterance.Phonetic
