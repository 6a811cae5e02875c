import Utterance.Proofs.Scanning

/-!
# Written patterns

A pattern as it is written: every literal with its quotes, every numeral with its digits, and the columns that are kept
for messages. A written pattern has tokens, marks and a meaning. The spellings of an expression are exactly the tokens
of the written patterns that mean it (`mem_spellings_iff`), and the tokens of a written pattern leave no choice of what
it means (`Phrase.meaning_unique`).
-/

namespace Utterance.Pattern
set_option autoImplicit false

/-- A literal or a symbol, and the column it starts in. -/
inductive WrittenAtom where
  | literal (spelling : List Char) (column : Nat)
  | symbol (name : List Char) (column : Nat)

/-- A repeat, with its numerals. -/
inductive WrittenRepeat where
  | range (least most : Numeral)
  | exactly (count : Numeral)
  | oneOrMore
  | zeroOrMore
  | optional

/-- A pattern as it is written, each group with the column it starts in. -/
abbrev Written := Phrase WrittenAtom Nat WrittenRepeat

namespace WrittenAtom

/-- The tokens of an atom. -/
def tokens : WrittenAtom → List Token
  | .literal spelling _ => [.literal spelling]
  | .symbol name _ => [.openName, .name name, .closeName]

/-- The mark of an atom. -/
def mark : WrittenAtom → Mark
  | .literal spelling column => .literal spelling column
  | .symbol name column => .symbol name column

/-- What an atom means. -/
def meaning : WrittenAtom → Atom
  | .literal spelling _ => .literal (String.ofList (literalText spelling))
  | .symbol name _ => .symbol (String.ofList name)

/-- The atom is a spelling of what it means. -/
def IsProper (atom : WrittenAtom) : Prop :=
  atom.tokens ∈ atom.meaning.spellings

end WrittenAtom

namespace WrittenRepeat

/-- The tokens of a repeat. -/
def tokens : WrittenRepeat → List Token
  | .range least most => [.openCount, .numeral least.digits, .comma, .numeral most.digits, .closeCount]
  | .exactly count => [.openCount, .numeral count.digits, .closeCount]
  | .oneOrMore => [.plus]
  | .zeroOrMore => [.star]
  | .optional => [.question]

/-- The mark of a repeat. -/
def mark : WrittenRepeat → Mark
  | .range least most => .range least most
  | .exactly count => .exactly count
  | .oneOrMore => .oneOrMore
  | .zeroOrMore => .zeroOrMore
  | .optional => .optional

/-- What a repeat means. -/
def meaning : WrittenRepeat → Repeat
  | .range least most => .range (digitsValue least.digits) (digitsValue most.digits)
  | .exactly count => .exactly (digitsValue count.digits)
  | .oneOrMore => .oneOrMore
  | .zeroOrMore => .zeroOrMore
  | .optional => .optional

/-- The repeat is a spelling of what it means. -/
def IsProper (repeated : WrittenRepeat) : Prop :=
  repeated.tokens ∈ repeated.meaning.spellings

end WrittenRepeat

/-- Written patterns as tokens. -/
def tokenScript : Script WrittenAtom Nat WrittenRepeat Token where
  atom := WrittenAtom.tokens
  opening _ := .openGroup
  closing := .closeGroup
  bar := .bar
  repeated := WrittenRepeat.tokens

@[simp] theorem tokenScript_atom (content : WrittenAtom) : tokenScript.atom content = content.tokens := rfl

@[simp] theorem tokenScript_opening (column : Nat) : tokenScript.opening column = .openGroup := rfl

@[simp] theorem tokenScript_closing : tokenScript.closing = .closeGroup := rfl

@[simp] theorem tokenScript_bar : tokenScript.bar = .bar := rfl

@[simp] theorem tokenScript_repeated (r : WrittenRepeat) : tokenScript.repeated r = r.tokens := rfl

/-- Written patterns as marks. -/
def markScript : Script WrittenAtom Nat WrittenRepeat Mark where
  atom content := [content.mark]
  opening := .openGroup
  closing := .closeGroup
  bar := .bar
  repeated r := [r.mark]

@[simp] theorem markScript_opening (column : Nat) : markScript.opening column = .openGroup column := rfl

@[simp] theorem markScript_closing : markScript.closing = .closeGroup := rfl

@[simp] theorem markScript_bar : markScript.bar = .bar := rfl

/-- What a written item means. -/
def Item.meaning : Item WrittenAtom Nat WrittenRepeat → Item Atom Unit Repeat :=
  Item.map WrittenAtom.meaning (fun _ => ()) WrittenRepeat.meaning

/-- What a written phrase means. -/
def Phrase.meaning : Phrase WrittenAtom Nat WrittenRepeat → Phrase Atom Unit Repeat :=
  Phrase.map WrittenAtom.meaning (fun _ => ()) WrittenRepeat.meaning

/-- What written alternatives mean. -/
def Choice.meaning : Choice WrittenAtom Nat WrittenRepeat → Choice Atom Unit Repeat :=
  Choice.map WrittenAtom.meaning (fun _ => ()) WrittenRepeat.meaning

/-! ## Spellings -/

theorem Escaped.unescape_eq {quote : Char} {written text : List Char} (escaped : Escaped quote written text) :
    unescape written = text := by
  induction escaped with
  | nil => rfl
  | plain noQuote noBackslash noBreak rest ih =>
    rw [← ih, unescape]
    exact fun d more same _ => absurd same noBackslash
  | escaped noBreak rest ih => rw [unescape, ih]

theorem IsLiteral.literalText_eq {spelling text : List Char} (literal : IsLiteral spelling text) :
    literalText spelling = text := by
  obtain ⟨quote, written, _, escaped, rfl⟩ := literal
  simpa [literalText] using escaped.unescape_eq

theorem digitsValue_eq (digits : List Char) : digitsValue digits = Nat.ofDigitChars 10 digits 0 := by
  rw [Nat.ofDigitChars_eq_foldl]
  rfl

theorem isNumeral_digitsValue {digits : List Char} :
    IsNumeral digits (digitsValue digits) ↔ (Token.numeral digits).IsSpelled := by
  simp [IsNumeral, Token.IsSpelled, digitsValue_eq]

/-- A literal has some text. -/
def Atom.HasText : Atom → Prop
  | .literal text => text ≠ ""
  | .symbol _ => True

/-- A range does not end below its start. -/
def Repeat.IsOrdered : Repeat → Prop
  | .range least most => least ≤ most
  | _ => True

theorem WrittenAtom.isProper_iff (atom : WrittenAtom) :
    atom.IsProper ↔ (∀ token ∈ atom.tokens, token.IsSpelled) ∧ atom.meaning.HasText := by
  cases atom with
  | literal spelling column =>
    have literal : IsLiteral spelling (literalText spelling) ↔ (Token.literal spelling).IsSpelled :=
      ⟨fun spelled => ⟨_, spelled⟩, fun ⟨text, spelled⟩ => spelled.literalText_eq ▸ spelled⟩
    simp only [IsProper, tokens, meaning, Atom.spellings, Atom.HasText, List.forall_mem_singleton, ← literal]
    constructor
    · rintro ⟨text, found, spelled, same⟩
      cases same
      rw [String.toList_ofList] at spelled
      exact ⟨spelled, text⟩
    · rintro ⟨spelled, text⟩
      exact ⟨text, spelling, by rwa [String.toList_ofList], rfl⟩
  | symbol name column =>
    simp only [IsProper, tokens, meaning, Atom.spellings, Atom.HasText, Token.IsSpelled, String.toList_ofList]
    constructor
    · rintro ⟨spelled, _⟩
      simpa using spelled
    · rintro ⟨spelled, _⟩
      exact ⟨by simpa using spelled, rfl⟩

theorem WrittenRepeat.isProper_iff (repeated : WrittenRepeat) :
    repeated.IsProper ↔ (∀ token ∈ repeated.tokens, token.IsSpelled) ∧ repeated.meaning.IsOrdered := by
  cases repeated with
  | range least most =>
    simp only [IsProper, tokens, meaning, Repeat.spellings, Repeat.IsOrdered]
    constructor
    · rintro ⟨ordered, low, high, isLow, isHigh, same⟩
      cases same
      rw [isNumeral_digitsValue] at isLow isHigh
      simp only [List.forall_mem_cons]
      exact ⟨⟨trivial, isLow, trivial, isHigh, trivial, List.forall_mem_nil _⟩, ordered⟩
    · rintro ⟨spelled, ordered⟩
      refine ⟨ordered, least.digits, most.digits, ?_, ?_, rfl⟩
      · exact isNumeral_digitsValue.2 (spelled _ (by simp))
      · exact isNumeral_digitsValue.2 (spelled _ (by simp))
  | exactly count =>
    simp only [IsProper, tokens, meaning, Repeat.spellings, Repeat.IsOrdered]
    constructor
    · rintro ⟨digits, isCount, same⟩
      cases same
      rw [isNumeral_digitsValue] at isCount
      simp only [List.forall_mem_cons]
      exact ⟨⟨trivial, isCount, trivial, List.forall_mem_nil _⟩, trivial⟩
    · rintro ⟨spelled, _⟩
      exact ⟨count.digits, isNumeral_digitsValue.2 (spelled _ (by simp)), rfl⟩
  | _ => exact ⟨fun _ => ⟨by simp [tokens, Token.IsSpelled], trivial⟩, fun _ => Set.mem_singleton _⟩

theorem repeat?_mem_spellings {repeated : Option WrittenRepeat} (proper : ∀ r ∈ repeated, r.IsProper) :
    tokenScript.repeat? repeated ∈ (repeated.map WrittenRepeat.meaning).elim 1 Repeat.spellings := by
  cases repeated with
  | none => exact Language.mem_one _ |>.2 rfl
  | some r => exact proper r rfl

mutual

theorem Item.write_mem_spellings : (item : Item WrittenAtom Nat WrittenRepeat) → (∀ a ∈ item.atoms, a.IsProper) →
    (∀ r ∈ item.repeats, r.IsProper) → item.write tokenScript ∈ item.meaning.spellings
  | .atom content repeated, atoms, repeats =>
    Language.append_mem_mul (atoms content (by simp [Item.atoms]))
      (repeat?_mem_spellings fun r member => repeats r (by simpa [Item.repeats] using member))
  | .group label inner repeated, atoms, repeats => by
    rw [Item.repeats, List.forall_mem_append] at repeats
    have inside := Choice.write_mem_spellings inner atoms repeats.1
    have after := repeat?_mem_spellings fun r member => repeats.2 r (by simpa using member)
    have parts : (Item.group label inner repeated).write tokenScript =
        [.openGroup] ++ inner.write tokenScript ++ [.closeGroup] ++ tokenScript.repeat? repeated := by
      simp [Item.write]
    rw [parts]
    exact Language.append_mem_mul (Language.append_mem_mul
      (Language.append_mem_mul (Set.mem_singleton _) inside) (Set.mem_singleton _)) after

theorem Phrase.write_mem_spellings : (phrase : Phrase WrittenAtom Nat WrittenRepeat) →
    (∀ a ∈ phrase.atoms, a.IsProper) → (∀ r ∈ phrase.repeats, r.IsProper) →
    phrase.write tokenScript ∈ phrase.meaning.spellings
  | .last item, atoms, repeats => Item.write_mem_spellings item atoms repeats
  | .cons item rest, atoms, repeats => by
    rw [Phrase.atoms, List.forall_mem_append] at atoms
    rw [Phrase.repeats, List.forall_mem_append] at repeats
    exact Language.append_mem_mul (Item.write_mem_spellings item atoms.1 repeats.1)
      (Phrase.write_mem_spellings rest atoms.2 repeats.2)

theorem Choice.write_mem_spellings : (choice : Choice WrittenAtom Nat WrittenRepeat) →
    (∀ a ∈ choice.atoms, a.IsProper) → (∀ r ∈ choice.repeats, r.IsProper) →
    choice.write tokenScript ∈ choice.meaning.spellings
  | .last phrase, atoms, repeats => Phrase.write_mem_spellings phrase atoms repeats
  | .cons phrase rest, atoms, repeats => by
    rw [Choice.atoms, List.forall_mem_append] at atoms
    rw [Choice.repeats, List.forall_mem_append] at repeats
    have parts : (Choice.cons phrase rest).write tokenScript =
        phrase.write tokenScript ++ [.bar] ++ rest.write tokenScript := by
      simp [Choice.write]
    rw [parts]
    exact Language.append_mem_mul (Language.append_mem_mul
      (Phrase.write_mem_spellings phrase atoms.1 repeats.1) (Set.mem_singleton _))
      (Choice.write_mem_spellings rest atoms.2 repeats.2)

end

theorem Atom.exists_written {atom : Atom} {tokens : List Token} (spelled : tokens ∈ atom.spellings) :
    ∃ written : WrittenAtom, written.tokens = tokens ∧ written.meaning = atom := by
  cases atom with
  | literal text =>
    obtain ⟨_, spelling, literal, rfl⟩ := spelled
    exact ⟨.literal spelling 0, rfl, by simp [WrittenAtom.meaning, literal.literalText_eq]⟩
  | symbol name =>
    obtain ⟨_, rfl⟩ := spelled
    exact ⟨.symbol name.toList 0, rfl, by simp [WrittenAtom.meaning]⟩

theorem Repeat.exists_written {repeated : Repeat} {tokens : List Token} (spelled : tokens ∈ repeated.spellings) :
    ∃ written : WrittenRepeat, written.tokens = tokens ∧ written.meaning = repeated := by
  cases repeated with
  | range least most =>
    obtain ⟨_, low, high, ⟨_, _, rfl⟩, ⟨_, _, rfl⟩, rfl⟩ := spelled
    exact ⟨.range ⟨low, 0⟩ ⟨high, 0⟩, rfl, by simp [WrittenRepeat.meaning, digitsValue_eq]⟩
  | exactly count =>
    obtain ⟨digits, ⟨_, _, rfl⟩, rfl⟩ := spelled
    exact ⟨.exactly ⟨digits, 0⟩, rfl, by simp [WrittenRepeat.meaning, digitsValue_eq]⟩
  | oneOrMore => exact ⟨.oneOrMore, (Set.mem_singleton_iff.1 spelled).symm, rfl⟩
  | zeroOrMore => exact ⟨.zeroOrMore, (Set.mem_singleton_iff.1 spelled).symm, rfl⟩
  | optional => exact ⟨.optional, (Set.mem_singleton_iff.1 spelled).symm, rfl⟩

theorem exists_written_repeat? {repeated : Option Repeat} {tokens : List Token}
    (spelled : tokens ∈ repeated.elim 1 Repeat.spellings) : ∃ written : Option WrittenRepeat,
      tokenScript.repeat? written = tokens ∧ written.map WrittenRepeat.meaning = repeated ∧ ∀ r ∈ written, r.IsProper := by
  cases repeated with
  | none => exact ⟨none, ((Language.mem_one _).1 spelled).symm, rfl, by simp⟩
  | some r =>
    obtain ⟨written, rfl, rfl⟩ := Repeat.exists_written spelled
    exact ⟨some written, rfl, rfl, by simpa [WrittenRepeat.IsProper] using spelled⟩

mutual

theorem Item.exists_written : (item : Item Atom Unit Repeat) → {tokens : List Token} → tokens ∈ item.spellings →
    ∃ written : Item WrittenAtom Nat WrittenRepeat, written.write tokenScript = tokens ∧ written.meaning = item ∧
      (∀ a ∈ written.atoms, a.IsProper) ∧ ∀ r ∈ written.repeats, r.IsProper
  | .atom content repeated, tokens, spelled => by
    obtain ⟨first, isAtom, second, isRepeat, rfl⟩ := spelled
    obtain ⟨atom, rfl, rfl⟩ := Atom.exists_written isAtom
    obtain ⟨again, rfl, rfl, proper⟩ := exists_written_repeat? isRepeat
    refine ⟨.atom atom again, rfl, rfl, ?_, ?_⟩
    · intro a member
      obtain rfl := List.mem_singleton.1 member
      exact isAtom
    · simpa [Item.repeats] using proper
  | .group _ inner repeated, tokens, spelled => by
    obtain ⟨_, ⟨_, ⟨_, rfl, middle, isChoice, rfl⟩, _, rfl, rfl⟩, last, isRepeat, rfl⟩ := spelled
    obtain ⟨choice, rfl, rfl, atoms, repeats⟩ := Choice.exists_written inner isChoice
    obtain ⟨again, rfl, rfl, proper⟩ := exists_written_repeat? isRepeat
    refine ⟨.group 0 choice again, by simp [Item.write], rfl, atoms, ?_⟩
    rw [Item.repeats, List.forall_mem_append]
    exact ⟨repeats, by simpa using proper⟩

theorem Phrase.exists_written : (phrase : Phrase Atom Unit Repeat) → {tokens : List Token} →
    tokens ∈ phrase.spellings →
    ∃ written : Phrase WrittenAtom Nat WrittenRepeat, written.write tokenScript = tokens ∧ written.meaning = phrase ∧
      (∀ a ∈ written.atoms, a.IsProper) ∧ ∀ r ∈ written.repeats, r.IsProper
  | .last item, tokens, spelled => by
    obtain ⟨written, rfl, rfl, proper⟩ := Item.exists_written item spelled
    exact ⟨.last written, rfl, rfl, proper⟩
  | .cons item rest, tokens, spelled => by
    obtain ⟨first, isItem, second, isRest, rfl⟩ := spelled
    obtain ⟨written, rfl, rfl, atoms, repeats⟩ := Item.exists_written item isItem
    obtain ⟨more, rfl, rfl, moreAtoms, moreRepeats⟩ := Phrase.exists_written rest isRest
    exact ⟨.cons written more, rfl, rfl, List.forall_mem_append.2 ⟨atoms, moreAtoms⟩,
      List.forall_mem_append.2 ⟨repeats, moreRepeats⟩⟩

theorem Choice.exists_written : (choice : Choice Atom Unit Repeat) → {tokens : List Token} →
    tokens ∈ choice.spellings →
    ∃ written : Choice WrittenAtom Nat WrittenRepeat, written.write tokenScript = tokens ∧ written.meaning = choice ∧
      (∀ a ∈ written.atoms, a.IsProper) ∧ ∀ r ∈ written.repeats, r.IsProper
  | .last phrase, tokens, spelled => by
    obtain ⟨written, rfl, rfl, proper⟩ := Phrase.exists_written phrase spelled
    exact ⟨.last written, rfl, rfl, proper⟩
  | .cons phrase rest, tokens, spelled => by
    obtain ⟨_, ⟨first, isPhrase, _, rfl, rfl⟩, second, isRest, rfl⟩ := spelled
    obtain ⟨written, rfl, rfl, atoms, repeats⟩ := Phrase.exists_written phrase isPhrase
    obtain ⟨more, rfl, rfl, moreAtoms, moreRepeats⟩ := Choice.exists_written rest isRest
    exact ⟨.cons written more, by simp [Choice.write], rfl, List.forall_mem_append.2 ⟨atoms, moreAtoms⟩,
      List.forall_mem_append.2 ⟨repeats, moreRepeats⟩⟩

end

/-- Every token can be cut out of a text, every literal has some text and no range ends below its start. -/
def Written.IsProper (written : Written) : Prop :=
  (∀ token ∈ written.write tokenScript, token.IsSpelled) ∧
    (∀ atom ∈ written.meaning.atoms, atom.HasText) ∧ ∀ r ∈ written.meaning.repeats, r.IsOrdered

theorem Written.isProper_iff (written : Written) :
    written.IsProper ↔ (∀ a ∈ written.atoms, a.IsProper) ∧ ∀ r ∈ written.repeats, r.IsProper := by
  have tokens := Phrase.forall_mem_write tokenScript Token.IsSpelled written (fun _ => trivial) trivial trivial
  simp only [Written.IsProper, tokens, Phrase.meaning, Phrase.atoms_map, Phrase.repeats_map, List.forall_mem_map,
    WrittenAtom.isProper_iff, WrittenRepeat.isProper_iff, tokenScript_atom, tokenScript_repeated]
  constructor
  · rintro ⟨⟨atoms, repeats⟩, texts, ordered⟩
    exact ⟨fun a member => ⟨atoms a member, texts a member⟩, fun r member => ⟨repeats r member, ordered r member⟩⟩
  · rintro ⟨atoms, repeats⟩
    exact ⟨⟨fun a member => (atoms a member).1, fun r member => (repeats r member).1⟩,
      fun a member => (atoms a member).2, fun r member => (repeats r member).2⟩

/-- The spellings of an expression are the tokens of the proper patterns that mean it. -/
theorem mem_spellings_iff {expression : Expression} {tokens : List Token} : tokens ∈ expression.spellings ↔
    ∃ written : Written, written.write tokenScript = tokens ∧ written.meaning = expression ∧ written.IsProper := by
  constructor
  · intro spelled
    obtain ⟨written, same, means, atoms, repeats⟩ := Phrase.exists_written expression spelled
    exact ⟨written, same, means, (Written.isProper_iff written).2 ⟨atoms, repeats⟩⟩
  · rintro ⟨written, rfl, rfl, proper⟩
    obtain ⟨atoms, repeats⟩ := (Written.isProper_iff written).1 proper
    exact Phrase.write_mem_spellings written atoms repeats

/-! ## One meaning -/

namespace Token

/-- The token begins an item. -/
def startsItem : Token → Bool
  | .openGroup => true
  | .literal _ => true
  | .openName => true
  | _ => false

/-- The token begins a repeat. -/
def startsRepeat : Token → Bool
  | .openCount => true
  | .plus => true
  | .star => true
  | .question => true
  | _ => false

theorem startsRepeat_of_startsItem {token : Token} (starts : token.startsItem = true) : token.startsRepeat = false := by
  cases token <;> simp_all [startsItem, startsRepeat]

end Token

/-- No repeat follows. -/
def NoRepeat (rest : List Token) : Prop :=
  ∀ token ∈ rest.head?, token.startsRepeat = false

/-- Neither a repeat nor an item follows. -/
def NoItem (rest : List Token) : Prop :=
  NoRepeat rest ∧ ∀ token ∈ rest.head?, token.startsItem = false

theorem WrittenAtom.exists_tokens (atom : WrittenAtom) :
    ∃ token more, atom.tokens = token :: more ∧ token.startsItem = true := by
  cases atom <;> exact ⟨_, _, rfl, rfl⟩

theorem WrittenRepeat.exists_tokens (repeated : WrittenRepeat) :
    ∃ token more, repeated.tokens = token :: more ∧ token.startsRepeat = true := by
  cases repeated <;> exact ⟨_, _, rfl, rfl⟩

theorem Item.exists_tokens (item : Item WrittenAtom Nat WrittenRepeat) :
    ∃ token more, item.write tokenScript = token :: more ∧ token.startsItem = true := by
  cases item with
  | atom content repeated =>
    obtain ⟨token, more, same, starts⟩ := content.exists_tokens
    exact ⟨token, more ++ tokenScript.repeat? repeated, by simp [Item.write, same], starts⟩
  | group label inner repeated => exact ⟨.openGroup, _, rfl, rfl⟩

theorem Phrase.exists_tokens (phrase : Phrase WrittenAtom Nat WrittenRepeat) :
    ∃ token more, phrase.write tokenScript = token :: more ∧ token.startsItem = true := by
  cases phrase with
  | last item => exact item.exists_tokens
  | cons item rest =>
    obtain ⟨token, more, same, starts⟩ := item.exists_tokens
    exact ⟨token, more ++ rest.write tokenScript, by simp [Phrase.write, same], starts⟩

theorem noRepeat_phrase (phrase : Phrase WrittenAtom Nat WrittenRepeat) (rest : List Token) :
    NoRepeat (phrase.write tokenScript ++ rest) := by
  obtain ⟨token, more, same, starts⟩ := phrase.exists_tokens
  rintro first member
  rw [same] at member
  cases member
  exact Token.startsRepeat_of_startsItem starts

theorem not_noItem_phrase (phrase : Phrase WrittenAtom Nat WrittenRepeat) (rest : List Token) :
    ¬NoItem (phrase.write tokenScript ++ rest) := by
  obtain ⟨token, more, same, starts⟩ := phrase.exists_tokens
  rintro ⟨_, noItem⟩
  rw [noItem token (by simp [same])] at starts
  cases starts

theorem noItem_of_closeGroup {rest : List Token} (closed : rest.head? = some .closeGroup) : NoItem rest := by
  constructor
  · rintro token member
    cases closed.symm.trans member
    rfl
  · rintro token member
    cases closed.symm.trans member
    rfl

theorem noItem_bar (rest : List Token) : NoItem (.bar :: rest) := by
  simp [NoItem, NoRepeat, Token.startsItem, Token.startsRepeat]

theorem WrittenAtom.meaning_unique {first second : WrittenAtom} {afterFirst afterSecond : List Token}
    (same : first.tokens ++ afterFirst = second.tokens ++ afterSecond) :
    first.meaning = second.meaning ∧ afterFirst = afterSecond := by
  cases first <;> cases second <;> simp_all [tokens, meaning]

theorem WrittenRepeat.meaning_unique {first second : WrittenRepeat} {afterFirst afterSecond : List Token}
    (same : first.tokens ++ afterFirst = second.tokens ++ afterSecond) :
    first.meaning = second.meaning ∧ afterFirst = afterSecond := by
  cases first <;> cases second <;> simp_all [tokens, meaning]

theorem repeat?_meaning_unique {first second : Option WrittenRepeat} {afterFirst afterSecond : List Token}
    (stopFirst : NoRepeat afterFirst) (stopSecond : NoRepeat afterSecond)
    (same : tokenScript.repeat? first ++ afterFirst = tokenScript.repeat? second ++ afterSecond) :
    first.map WrittenRepeat.meaning = second.map WrittenRepeat.meaning ∧ afterFirst = afterSecond := by
  cases first with
  | none =>
    cases second with
    | none => exact ⟨rfl, same⟩
    | some r =>
      obtain ⟨token, more, spelled, starts⟩ := r.exists_tokens
      rw [stopFirst token (by simp_all [Script.repeat?])] at starts
      cases starts
  | some r =>
    cases second with
    | none =>
      obtain ⟨token, more, spelled, starts⟩ := r.exists_tokens
      rw [stopSecond token (by simp [← show _ = afterSecond from same, Script.repeat?, spelled])] at starts
      cases starts
    | some s =>
      obtain ⟨means, rest⟩ := WrittenRepeat.meaning_unique same
      exact ⟨congrArg some means, rest⟩

-- The tokens that follow are part of the statement: they tell where an item without a repeat ends, and whether a phrase
-- goes on. The induction is on the first tree, the second is opened along with it.
mutual

theorem Item.meaning_unique : (first second : Item WrittenAtom Nat WrittenRepeat) →
    {afterFirst afterSecond : List Token} → NoRepeat afterFirst → NoRepeat afterSecond →
    first.write tokenScript ++ afterFirst = second.write tokenScript ++ afterSecond →
    first.meaning = second.meaning ∧ afterFirst = afterSecond
  | .atom content repeated, .atom other again, _, _, stopFirst, stopSecond, same => by
    simp only [Item.write, List.append_assoc, tokenScript_atom] at same
    obtain ⟨means, same⟩ := WrittenAtom.meaning_unique same
    obtain ⟨repeats, rest⟩ := repeat?_meaning_unique stopFirst stopSecond same
    exact ⟨by simp [Item.meaning, Item.map, means, repeats], rest⟩
  | .atom content repeated, .group label inner again, _, _, _, _, same => by
    cases content <;> simp [Item.write, WrittenAtom.tokens] at same
  | .group label inner repeated, .atom other again, _, _, _, _, same => by
    cases other <;> simp [Item.write, WrittenAtom.tokens] at same
  | .group label inner repeated, .group other choice again, _, _, stopFirst, stopSecond, same => by
    simp only [Item.write, List.append_assoc, List.cons_append, tokenScript_opening, tokenScript_closing, List.cons.injEq,
      true_and] at same
    obtain ⟨means, same⟩ := Choice.meaning_unique inner choice rfl rfl same
    obtain ⟨repeats, rest⟩ := repeat?_meaning_unique stopFirst stopSecond (List.cons.inj same).2
    exact ⟨by simp_all [Item.meaning, Item.map, Choice.meaning], rest⟩

theorem Phrase.meaning_unique : (first second : Phrase WrittenAtom Nat WrittenRepeat) →
    {afterFirst afterSecond : List Token} → NoItem afterFirst → NoItem afterSecond →
    first.write tokenScript ++ afterFirst = second.write tokenScript ++ afterSecond →
    first.meaning = second.meaning ∧ afterFirst = afterSecond
  | .last item, .last other, _, _, stopFirst, stopSecond, same => by
    obtain ⟨means, rest⟩ := Item.meaning_unique item other stopFirst.1 stopSecond.1 same
    exact ⟨congrArg Phrase.last means, rest⟩
  | .last item, .cons other more, _, _, stopFirst, stopSecond, same => by
    rw [Phrase.write, Phrase.write, List.append_assoc] at same
    obtain ⟨_, rfl⟩ := Item.meaning_unique item other stopFirst.1 (noRepeat_phrase more _) same
    exact absurd stopFirst (not_noItem_phrase more _)
  | .cons item rest, .last other, _, _, stopFirst, stopSecond, same => by
    rw [Phrase.write, Phrase.write, List.append_assoc] at same
    obtain ⟨_, rfl⟩ := Item.meaning_unique item other (noRepeat_phrase rest _) stopSecond.1 same
    exact absurd stopSecond (not_noItem_phrase rest _)
  | .cons item rest, .cons other more, _, _, stopFirst, stopSecond, same => by
    simp only [Phrase.write, List.append_assoc] at same
    obtain ⟨means, same⟩ := Item.meaning_unique item other (noRepeat_phrase rest _) (noRepeat_phrase more _) same
    obtain ⟨others, after⟩ := Phrase.meaning_unique rest more stopFirst stopSecond same
    exact ⟨congrArg₂ Phrase.cons means others, after⟩

theorem Choice.meaning_unique : (first second : Choice WrittenAtom Nat WrittenRepeat) →
    {afterFirst afterSecond : List Token} → afterFirst.head? = some .closeGroup →
    afterSecond.head? = some .closeGroup →
    first.write tokenScript ++ afterFirst = second.write tokenScript ++ afterSecond →
    first.meaning = second.meaning ∧ afterFirst = afterSecond
  | .last phrase, .last other, _, _, stopFirst, stopSecond, same => by
    obtain ⟨means, rest⟩ :=
      Phrase.meaning_unique phrase other (noItem_of_closeGroup stopFirst) (noItem_of_closeGroup stopSecond) same
    exact ⟨congrArg Choice.last means, rest⟩
  | .last phrase, .cons other more, _, _, stopFirst, stopSecond, same => by
    simp only [Choice.write, List.append_assoc, List.cons_append] at same
    obtain ⟨_, rfl⟩ := Phrase.meaning_unique phrase other (noItem_of_closeGroup stopFirst) (noItem_bar _) same
    cases stopFirst
  | .cons phrase rest, .last other, _, _, stopFirst, stopSecond, same => by
    simp only [Choice.write, List.append_assoc, List.cons_append] at same
    obtain ⟨_, rfl⟩ := Phrase.meaning_unique phrase other (noItem_bar _) (noItem_of_closeGroup stopSecond) same
    cases stopSecond
  | .cons phrase rest, .cons other more, _, _, stopFirst, stopSecond, same => by
    simp only [Choice.write, List.append_assoc, List.cons_append] at same
    obtain ⟨means, same⟩ := Phrase.meaning_unique phrase other (noItem_bar _) (noItem_bar _) same
    obtain ⟨others, after⟩ := Choice.meaning_unique rest more stopFirst stopSecond (List.cons.inj same).2
    exact ⟨congrArg₂ Choice.cons means others, after⟩

end

/-- Patterns with the same tokens mean the same. -/
theorem Written.meaning_eq {first second : Written} (same : first.write tokenScript = second.write tokenScript) :
    first.meaning = second.meaning := by
  have stop : NoItem [] := ⟨by simp [NoRepeat], by simp⟩
  exact (Phrase.meaning_unique first second stop stop (by simpa using same)).1

/-! ## Reading back -/

theorem WrittenAtom.readable {rest : List Token} (atom : WrittenAtom)
    (spelled : ∀ token ∈ atom.tokens, token.IsSpelled) (readable : Readable false rest) :
    Readable false (atom.tokens ++ rest) := by
  cases atom with
  | literal spelling column => exact ⟨spelled _ (by simp [tokens]), trivial, False.elim, readable⟩
  | symbol name column =>
    have isName : (Token.name name).IsSpelled := spelled _ (by simp [tokens])
    refine ⟨trivial, trivial, False.elim, isName, rfl, fun _ next member => ?_, trivial, trivial, False.elim, readable⟩
    cases member
    exact ⟨'>', rfl⟩

theorem WrittenRepeat.readable {rest : List Token} (repeated : WrittenRepeat)
    (spelled : ∀ token ∈ repeated.tokens, token.IsSpelled) (readable : Readable false rest) :
    Readable false (repeated.tokens ++ rest) := by
  cases repeated with
  | range least most =>
    have low : (Token.numeral least.digits).IsSpelled := spelled _ (by simp [tokens])
    have high : (Token.numeral most.digits).IsSpelled := spelled _ (by simp [tokens])
    refine ⟨trivial, trivial, False.elim, low, rfl, fun _ next member => ?_, trivial, trivial, False.elim,
      high, rfl, fun _ next member => ?_, trivial, trivial, False.elim, readable⟩
    · cases member
      exact ⟨',', rfl⟩
    · cases member
      exact ⟨'\x7d', rfl⟩
  | exactly count =>
    have isCount : (Token.numeral count.digits).IsSpelled := spelled _ (by simp [tokens])
    refine ⟨trivial, trivial, False.elim, isCount, rfl, fun _ next member => ?_, trivial, trivial, False.elim,
      readable⟩
    cases member
    exact ⟨'\x7d', rfl⟩
  | _ => exact ⟨trivial, trivial, False.elim, readable⟩

theorem Written.isStray_eq_false (written : Written) : ∀ token ∈ written.write tokenScript, token.isStray = false := by
  refine (Phrase.forall_mem_write tokenScript (fun token => token.isStray = false) written (fun _ => rfl) rfl rfl).2 ⟨?_, ?_⟩
  · intro a _
    cases a <;> simp [WrittenAtom.tokens, Token.isStray]
  · intro r _
    cases r <;> simp [WrittenRepeat.tokens, Token.isStray]

theorem Written.readable {written : Written} (spelled : ∀ token ∈ written.write tokenScript, token.IsSpelled) :
    Readable false (written.write tokenScript) := by
  obtain ⟨atoms, repeats⟩ :=
    (Phrase.forall_mem_write tokenScript Token.IsSpelled written (fun _ => trivial) trivial trivial).1 spelled
  have sign : ∀ token : Token, token.IsSpelled → token.StandsIn false → ¬token.IsRun →
      token.announcesNumeral = false → ∀ rest, Readable false rest → Readable false ([token] ++ rest) := by
    intro token spelled stands noRun silent rest readable
    exact ⟨spelled, stands, fun run => absurd run noRun, by rwa [silent]⟩
  have keeps : tokenScript.Keeps fun tokens => ∀ rest, Readable false rest → Readable false (tokens ++ rest) :=
    { nil := fun rest readable => readable
      append := fun first second rest readable => by
        rw [List.append_assoc]
        exact first _ (second rest readable)
      opening := fun _ => sign .openGroup trivial trivial id rfl
      closing := sign .closeGroup trivial trivial id rfl
      bar := sign .bar trivial trivial id rfl }
  have whole := Phrase.write_of_keeps keeps written
    (fun a member rest readable => a.readable (atoms a member) readable)
    (fun r member rest readable => r.readable (repeats r member) readable) [] trivial
  rwa [List.append_nil] at whole

end Utterance.Pattern
