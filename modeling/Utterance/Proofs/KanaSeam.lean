import Utterance.Proofs.KanaSayable

/-!
# Texts in kana one after the other

Reading a text after another goes on where the first one ends, unless a pair stands across the seam. What was said
before stays as it is, since a mark that lengthens nothing of its own text is refused. So the phones of both texts
stand one after the other (`kana_append`).
-/

namespace Utterance.Phonetic
set_option autoImplicit false

/-- Phones one after the other, with a space where both have some. -/
def spaced (phones more : String) : String :=
  if phones = "" then more else if more = "" then phones else phones ++ " " ++ more

/-- No pair stands across the seam of two texts. -/
def IsSeam (pairs : PairTable) (first second : List Char) : Prop :=
  ∀ c ∈ first.getLast?, IsAlone pairs c second

section Seam

variable {pairs : PairTable} {first second : List Char}

theorem IsSeam.rest {c : Char} {rest : List Char} (seam : IsSeam pairs (c :: rest) second) :
    IsSeam pairs rest second := by
  intro d last
  rw [Option.mem_def] at last
  exact seam d (by simp [List.getLast?_cons, last])

/-- A character that is alone in the first text is alone in both. -/
theorem IsSeam.isAlone {c : Char} {rest : List Char} (seam : IsSeam pairs (c :: rest) second)
    (alone : IsAlone pairs c rest) : IsAlone pairs c (rest ++ second) := by
  cases rest with
  | nil => exact seam c rfl
  | cons d after => exact alone

/-- Reading goes on after a text from where it ends, unless it stops in this text already. -/
theorem phonesWith_append_bind {said : List Phone} {offset : Nat} (seam : IsSeam pairs first second) :
    phonesWith pairs said offset (first ++ second) = (phonesWith pairs said offset first).bind fun phones =>
      phonesWith pairs phones.reverse (offset + first.length) second := by
  induction first using reading_induction pairs generalizing said offset with
  | nil => simp [phonesWith_nil, Except.bind]
  | skipped c rest skipped ih =>
    rw [List.cons_append, phonesWith_skipped skipped, phonesWith_skipped skipped, ih seam.rest,
      List.length_cons, Nat.add_right_comm, Nat.add_assoc]
  | mark c rest mark ih =>
    cases lengthened : lengthen said with
    | none =>
      rw [List.cons_append, phonesWith_idle_mark mark lengthened, phonesWith_idle_mark mark lengthened]
      rfl
    | some longer =>
      rw [List.cons_append, phonesWith_mark mark lengthened, phonesWith_mark mark lengthened, ih seam.rest,
        List.length_cons, Nat.add_right_comm, Nat.add_assoc]
  | pair c d rest syllable sounded found ih =>
    rw [List.cons_append, List.cons_append, phonesWith_pair sounded found, phonesWith_pair sounded found,
      ih seam.rest.rest, List.length_cons, List.length_cons, Nat.add_right_comm, Nat.add_assoc]
  | single c rest syllable sounded alone found ih =>
    rw [List.cons_append, phonesWith_single sounded (seam.isAlone alone) found, phonesWith_single sounded alone found,
      ih seam.rest, List.length_cons, Nat.add_right_comm, Nat.add_assoc]
  | stray c rest sounded alone unknown =>
    rw [List.cons_append, phonesWith_stray sounded (seam.isAlone alone) unknown, phonesWith_stray sounded alone unknown]
    rfl

theorem phonesWith_append {said phones : List Phone} {offset : Nat} (seam : IsSeam pairs first second)
    (done : phonesWith pairs said offset first = .ok phones) :
    phonesWith pairs said offset (first ++ second) =
      phonesWith pairs phones.reverse (offset + first.length) second := by
  rw [phonesWith_append_bind seam, done]
  rfl

theorem say_append (syllable : List String) (said before : List Phone) :
    say syllable (said ++ before) = say syllable said ++ before := by
  simp only [say, List.append_assoc]

theorem lengthen_append {said longer : List Phone} (before : List Phone) (lengthened : lengthen said = some longer) :
    lengthen (said ++ before) = some (longer ++ before) := by
  cases said with
  | nil => cases lengthened
  | cons phone others =>
    rw [List.cons_append, lengthen]
    rw [lengthen] at lengthened
    split at lengthened
    · rename_i vowel
      cases lengthened
      rw [if_pos vowel, List.cons_append]
    · cases lengthened

/-- A text that can be said by itself is said in the same way after other phones: none of its marks reaches back to
them. -/
theorem phonesWith_after {said phones : List Phone} {offset : Nat} {text : List Char}
    (done : phonesWith pairs said offset text = .ok phones) (before : List Phone) (start : Nat) :
    phonesWith pairs (said ++ before) start text = .ok (before.reverse ++ phones) := by
  induction text using reading_induction pairs generalizing said offset start with
  | nil =>
    cases done
    rw [phonesWith_nil, List.reverse_append]
  | skipped c rest skipped ih =>
    rw [phonesWith_skipped skipped] at done ⊢
    exact ih done _
  | mark c rest mark ih =>
    cases lengthened : lengthen said with
    | none =>
      rw [phonesWith_idle_mark mark lengthened] at done
      cases done
    | some longer =>
      rw [phonesWith_mark mark lengthened] at done
      rw [phonesWith_mark mark (lengthen_append before lengthened)]
      exact ih done _
  | pair c d rest syllable sounded found ih =>
    rw [phonesWith_pair sounded found] at done ⊢
    rw [say_append]
    exact ih done _
  | single c rest syllable sounded alone found ih =>
    rw [phonesWith_single sounded alone found] at done ⊢
    rw [say_append]
    exact ih done _
  | stray c rest sounded alone unknown =>
    rw [phonesWith_stray sounded alone unknown] at done
    cases done

end Seam

/-! ## Written phones -/

theorem nonempty_of_phonesWith {phones : List Phone} {offset : Nat} {text : List Char}
    (done : phonesWith digraphs [] offset text = .ok phones) : HaveSymbols (· ≠ "") phones := by
  intro phone member
  have first := (Bool.and_eq_true_iff.1 (haveSymbols_of_phonesWith done phone member)).1
  simpa using first

theorem Phone.text_ne_empty {phone : Phone} (nonempty : phone.symbol ≠ "") : phone.text ≠ "" := by
  rw [Phone.text]
  split
  · simp
  · exact nonempty

/-- Nothing is written only where nothing is said. -/
theorem written_eq_empty_iff {phones : List Phone} (nonempty : HaveSymbols (· ≠ "") phones) :
    " ".intercalate (phones.map Phone.text) = "" ↔ phones = [] := by
  cases phones with
  | nil => simp
  | cons phone others =>
    have written := Phone.text_ne_empty (nonempty phone List.mem_cons_self)
    have split : " ".intercalate ((phone :: others).map Phone.text) =
        phone.text ++ " ".intercalate ("" :: others.map Phone.text) := by
      rw [← String.intercalate_cons_append, String.append_empty, List.map_cons]
    rw [split]
    simp [written]

theorem written_append {phones more : List Phone} (nonempty : HaveSymbols (· ≠ "") phones)
    (nonemptyToo : HaveSymbols (· ≠ "") more) :
    " ".intercalate ((phones ++ more).map Phone.text) =
      spaced (" ".intercalate (phones.map Phone.text)) (" ".intercalate (more.map Phone.text)) := by
  simp only [spaced, written_eq_empty_iff nonempty, written_eq_empty_iff nonemptyToo]
  split
  · rename_i empty
    rw [empty, List.nil_append]
  · rename_i some
    split
    · rename_i empty
      rw [empty, List.append_nil]
    · rename_i someToo
      rw [List.map_append, String.intercalate_append_of_ne_nil (by simpa using some) (by simpa using someToo)]

/-- Two texts that can be said can be said one after the other, and so are their phones, if no pair stands across the
seam. The second text cannot begin with a mark, since there would be nothing to lengthen. -/
theorem kana_append {first second phones more : String} (said : kana first = .ok phones)
    (saidToo : kana second = .ok more)
    (apart : ∀ c ∈ (toKatakana first).toList.getLast?, ∀ d ∈ (toKatakana second).toList.head?, digraph? c d = none) :
    kana (first ++ second) = .ok (spaced phones more) := by
  obtain ⟨list, done, rfl⟩ := kana_eq_ok_iff.1 said
  obtain ⟨others, doneToo, rfl⟩ := kana_eq_ok_iff.1 saidToo
  have seam : IsSeam digraphs first.toList second.toList := by
    intro c last d next
    rw [Option.mem_def] at last next
    exact apart (katakana c) (by simp [toKatakana, last]) (katakana d) (by simp [toKatakana, next])
  have both : phonesWith digraphs [] 0 (first ++ second).toList = .ok (list ++ others) := by
    rw [String.toList_append, phonesWith_append seam done, ← List.nil_append list.reverse, phonesWith_after doneToo,
      List.reverse_reverse]
  refine kana_eq_ok_iff.2 ⟨list ++ others, both, ?_⟩
  exact written_append (nonempty_of_phonesWith done) (nonempty_of_phonesWith doneToo)

/-- The first text ends in a space after a kana that would make a pair, the second one has a pair and marks. -/
theorem kana_append_spaced : kana "きっき " = .ok "k i q k i" ∧ kana "ゃ ちょーー" = .ok "y a ch o:" ∧
    kana ("きっき " ++ "ゃ ちょーー") = .ok "k i q k i y a ch o:" := by
  have said : kana "きっき " = .ok "k i q k i" := by decide +kernel
  have saidToo : kana "ゃ ちょーー" = .ok "y a ch o:" := by decide +kernel
  refine ⟨said, saidToo, kana_append said saidToo fun c last d next => ?_⟩
  have space : (toKatakana "きっき ").toList.getLast? = some ' ' := by decide +kernel
  have small : (toKatakana "ゃ ちょーー").toList.head? = some 'ャ' := by decide +kernel
  obtain rfl : ' ' = c := Option.some.inj (space.symm.trans last)
  obtain rfl : 'ャ' = d := Option.some.inj (small.symm.trans next)
  decide +kernel

end Utterance.Phonetic
