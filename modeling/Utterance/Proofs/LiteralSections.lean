import Utterance.Proofs.Accepted
import Utterance.Proofs.Cutting

/-!
# The sections of the literals

The vocabulary of an accepted pattern has one section for each literal that is written, in the order of the text, and
its name tells the way to the literal through the groups around it. Lowering fails for the first obstacle that it meets
(`lower_eq_literalSections`).
-/

namespace Utterance
set_option autoImplicit false

/-! ## Failures -/

/-- Why there is no result. -/
def failure? {ε α : Type} : Except ε α → Option ε
  | .error error => some error
  | .ok _ => none

theorem failure?_eq_some_iff {ε α : Type} {result : Except ε α} {error : ε} :
    failure? result = some error ↔ result = .error error := by
  cases result <;> simp [failure?]

theorem failure?_eq_none_iff {ε α : Type} {result : Except ε α} : failure? result = none ↔ ∃ a, result = .ok a := by
  cases result <;> simp [failure?]

/-- A step fails before what comes after it, which may not depend on its result to fail. -/
theorem failure?_bind {ε α β : Type} (result : Except ε α) {next : α → Except ε β} {later : Option ε}
    (same : ∀ a, result = .ok a → failure? (next a) = later) :
    failure? (result >>= next) = (failure? result).or later := by
  cases result with
  | error error => rfl
  | ok a => exact same a rfl

theorem failure?_bind_pure {ε α β : Type} (result : Except ε α) (change : α → β) :
    failure? (result >>= fun a => pure (change a)) = failure? result := by
  cases result <;> rfl

/-- Why the number of an item cannot be part of a name. -/
def numberFault? (number : Int) : Option LoweringFault :=
  if isWritable number then none else some .oversizedNumber

/-- Why an item cannot be said a number of times, after it is said `least` times and so on. -/
def countFault? [Limits] (least count : Int) : Option LoweringFault :=
  if count = 0 then none else (repetitionFault? least count).map LoweringFault.capacity

/-- Why an item cannot be repeated: the fault of the first number of times that cannot be made. -/
def Repetition.fault? [Limits] : Repetition → Option LoweringFault
  | .range least most => (List.range (most + 1 - least).toNat).findSome? fun more : Nat => countFault? least (least + more)
  | _ => none

/-- Why a text has no phones. -/
def Transliterator.fault? (transliterate : Transliterator) (text : String) : Option LoweringFault :=
  (failure? (transliterate text)).map LoweringFault.transliteration

/-- What keeps a chain from being lowered, item by item and in a group from the repetition inwards. -/
def Chain.obstacles [Limits] (transliterate : Transliterator) : (number : Int) → Chain → List LoweringFault
  | _, .nil => []
  | _, .broken _ => []
  | number, .leaf content repetition _ next =>
    (numberFault? number).toList ++ repetition.fault?.toList ++
      (content.literal?.bind transliterate.fault?).toList ++ next.obstacles transliterate (number + 1)
  | number, .group inner repetition _ next =>
    (numberFault? number).toList ++ repetition.fault?.toList ++ inner.obstacles transliterate 0 ++
      next.obstacles transliterate (number + 1)

/-- What keeps a top-level chain from being lowered: first of all a number of one of its items. -/
def Chain.sentenceObstacles [Limits] (transliterate : Transliterator) (number : Int) (chain : Chain) : List LoweringFault :=
  ((chain.numbering number).map Prod.fst).filterMap numberFault? ++ chain.obstacles transliterate number

theorem filterMap_numberFault?_eq_nil {numbers : List Int} (writable : ∀ number ∈ numbers, isWritable number = true) :
    numbers.filterMap numberFault? = [] :=
  List.filterMap_eq_nil_iff.2 fun number listed => if_pos (writable number listed)

theorem failure?_itemName (scope : String) (number : Int) : failure? (itemName scope number) = numberFault? number := by
  unfold itemName numberFault?
  split <;> rfl

theorem failure?_countedProductions [Limits] (name : String) (least : Int) (left : Nat) (count : Int) :
    failure? (countedProductions name least left count) =
      (List.range left).findSome? fun more : Nat => countFault? least (count + more) := by
  induction left generalizing count with
  | zero => rfl
  | succ left ih =>
    have first : failure? ((repeatedSymbols (Name.loop name) least count).mapError LoweringFault.capacity) =
        countFault? least count := by
      unfold repeatedSymbols countFault?
      split
      · rfl
      · cases repetitionFault? least count <;> rfl
    have shift : ∀ more : Nat, count + 1 + (more : Int) = count + ((more + 1 : Nat) : Int) := by
      intro more
      omega
    rw [countedProductions, failure?_bind _ (fun _ _ => failure?_bind_pure _ _), first, ih, List.range_succ_eq_map,
      List.findSome?_cons, List.findSome?_map]
    have start : count + ((0 : Nat) : Int) = count := by omega
    simp only [shift, start, Function.comp_def, Nat.succ_eq_add_one]
    cases countFault? least count <;> rfl

theorem failure?_productions [Limits] {repetition : Repetition} (known : repetition.IsKnown) (name : String) :
    failure? (repetition.productions name) = repetition.fault? := by
  cases repetition with
  | range least most => exact failure?_countedProductions name least _ least
  | other kind least most => exact known.elim
  | _ => rfl

theorem Repetition.fault?_eq_none_iff [Limits] {repetition : Repetition} (known : repetition.IsKnown) :
    repetition.fault? = none ↔ repetition.Fits := by
  rw [← failure?_productions known "", failure?_eq_none_iff]
  constructor
  · rintro ⟨productions, made⟩
    exact (Repetition.productions_eq_ok_iff.1 made).2.1
  · intro fits
    exact ⟨_, Repetition.productions_eq_ok_iff.2 ⟨known, fits, rfl⟩⟩

theorem failure?_leaf {leaf : Leaf} (known : leaf.IsKnown) (transliterate : Transliterator) (name : String) :
    failure? (leaf.lower transliterate name) = leaf.literal?.bind transliterate.fault? := by
  cases leaf with
  | literal text =>
    simp only [Leaf.lower, Leaf.literal?, Option.bind_some, Transliterator.fault?]
    cases transliterate text <;> rfl
  | symbol reference => rfl
  | other kind => exact known.elim

namespace Chain

variable {chain : Chain} (transliterate : Transliterator)

/-- A chain fails to be lowered for the first of its obstacles. -/
theorem failure?_lower [Limits] (known : chain.IsKnown) (scope : String) (number : Int) :
    failure? (chain.lower transliterate scope number) = (chain.obstacles transliterate number).head? := by
  -- The steps of lowering an item come in the order of its obstacles, so they are passed one after the other.
  induction chain generalizing scope number with
  | nil => rfl
  | broken index => exact known.elim
  | leaf content repetition closes next ih =>
    have order : ((leaf content repetition closes next).obstacles transliterate number).head? =
        (numberFault? number).or (repetition.fault?.or ((content.literal?.bind transliterate.fault?).or
          (next.obstacles transliterate (number + 1)).head?)) := by
      simp [obstacles, List.head?_append]
    rw [order, Chain.lower, ← failure?_itemName scope number]
    refine failure?_bind _ fun name _ => ?_
    rw [← failure?_productions known.2.1 name]
    refine failure?_bind _ fun repeats _ => ?_
    rw [← failure?_leaf known.1 transliterate (repetition.bodyName name)]
    refine failure?_bind _ fun lowered _ => ?_
    obtain ⟨grammar, vocabulary⟩ := lowered
    exact (failure?_bind_pure _ _).trans (ih known.2.2 scope (number + 1))
  | group inner repetition closes next ihInner ih =>
    have order : ((group inner repetition closes next).obstacles transliterate number).head? =
        (numberFault? number).or (repetition.fault?.or ((inner.obstacles transliterate 0).head?.or
          (next.obstacles transliterate (number + 1)).head?)) := by
      simp [obstacles, List.head?_append]
    rw [order, Chain.lower, ← failure?_itemName scope number]
    refine failure?_bind _ fun name _ => ?_
    rw [← failure?_productions known.2.1 name]
    refine failure?_bind _ fun repeats _ => ?_
    have shown : ∀ (alternatives : Grammar) (next : Grammar → Except LoweringFault Lowered),
        (Except.ok alternatives >>= next) = next alternatives := fun _ _ => rfl
    rw [alternatives_eq_ok known.1, shown, ← ihInner known.1 (repetition.bodyName name) 0]
    refine failure?_bind _ fun children _ => ?_
    exact (failure?_bind_pure _ _).trans (ih known.2.2 scope (number + 1))

theorem failure?_sentence [Limits] (known : chain.IsKnown) (number : Int) :
    failure? (chain.sentence transliterate number) = (chain.sentenceObstacles transliterate number).head? := by
  have start : chain.sentence transliterate number =
      if ((chain.numbering number).map Prod.fst).all isWritable then do
        let words ← chain.lower transliterate Name.wordScope number
        return { words with grammar := rootProductions ((chain.numbering number).map Prod.fst) ++ words.grammar }
      else .error .oversizedNumber := by
    rw [Chain.sentence, numbers_eq_ok known]
    rfl
  rw [start, sentenceObstacles]
  split
  · rename_i writable
    rw [filterMap_numberFault?_eq_nil (List.all_eq_true.1 writable), List.nil_append, failure?_bind_pure,
      failure?_lower transliterate known]
  · rename_i unwritable
    rw [Bool.not_eq_true, List.all_eq_false] at unwritable
    obtain ⟨item, listed, tooLong⟩ := unwritable
    have refused : LoweringFault.oversizedNumber ∈ ((chain.numbering number).map Prod.fst).filterMap numberFault? :=
      List.mem_filterMap.2 ⟨item, listed, if_neg tooLong⟩
    obtain ⟨fault, others, faults⟩ := List.exists_cons_of_ne_nil (List.ne_nil_of_mem refused)
    obtain ⟨first, _, isFault⟩ := List.mem_filterMap.1 (faults ▸ List.mem_cons_self)
    rw [faults, List.cons_append, List.head?_cons]
    -- Every number that cannot be written has the same fault, so the first of them need not be found.
    unfold numberFault? at isFault
    split at isFault
    · cases isFault
    · exact isFault

/-- If all numbers can be written and everything that is repeated can be made, only literals are left as obstacles. -/
theorem obstacles_eq_of_fits [Limits] (known : chain.IsKnown) {number : Int} (fits : chain.Fits number) :
    chain.obstacles transliterate number = chain.literals.filterMap transliterate.fault? := by
  have writable : ∀ {number : Int}, isWritable number → numberFault? number = none := fun written => if_pos written
  induction chain generalizing number with
  | nil => rfl
  | broken index => exact known.elim
  | leaf content repetition closes next ih =>
    have noFault := (Repetition.fault?_eq_none_iff known.2.1).2 fits.2.1
    rw [obstacles, writable fits.1, noFault, ih known.2.2 fits.2.2]
    cases said : content.literal? with
    | none => simp [literals, leaves, said]
    | some text => cases fault : transliterate.fault? text <;> simp [literals, leaves, said, fault]
  | group inner repetition closes next ihInner ih =>
    have noFault := (Repetition.fault?_eq_none_iff known.2.1).2 fits.2.1
    rw [obstacles, writable fits.1, noFault, ihInner known.1 fits.2.2.1, ih known.2.2 fits.2.2.2]
    simp [literals, leaves]

theorem sentenceObstacles_eq_of_fits [Limits] (known : chain.IsKnown) {number : Int} (fits : chain.Fits number) :
    chain.sentenceObstacles transliterate number = chain.literals.filterMap transliterate.fault? := by
  have writable : ∀ item ∈ (chain.numbering number).map Prod.fst, isWritable item = true :=
    List.forall_mem_map.2 (isWritable_of_fits fits)
  rw [sentenceObstacles, filterMap_numberFault?_eq_nil writable, List.nil_append,
    obstacles_eq_of_fits transliterate known fits]

end Chain

namespace Pattern

/-! ## Occurrences of literals -/

/-- A step on the way to a literal: the position among the items of a pattern or a group, and whether that item is
repeated. -/
structure Step where
  position : Nat
  repeated : Bool

/-- A step as part of a name. The first item has the given number. -/
def Step.text (number : Int) (step : Step) : String :=
  "_" ++ toString (number + step.position) ++ if step.repeated then "_LOOP" else ""

/-- A way as part of a name. In a group the first item has number 0. -/
def wayText : (number : Int) → List Step → String
  | _, [] => ""
  | number, step :: way => step.text number ++ wayText 0 way

section Length

variable {α γ ρ : Type}

/-- The number of items of a phrase. -/
def Phrase.length : Phrase α γ ρ → Nat
  | .last _ => 1
  | .cons _ rest => rest.length + 1

end Length

mutual

/-- The literals in an item at a position, each with the way to it. -/
def Item.occurrences : Item Atom Unit Repeat → (position : Nat) → List (List Step × String)
  | .atom (.literal text) repeated, position => [([⟨position, repeated.isSome⟩], text)]
  | .atom (.symbol _) _, _ => []
  | .group _ inner repeated, position =>
    (inner.occurrences 0).map fun (way, text) => (⟨position, repeated.isSome⟩ :: way, text)

/-- The literals in a phrase whose items have the positions from the given one on. -/
def Phrase.occurrences : Phrase Atom Unit Repeat → (position : Nat) → List (List Step × String)
  | .last item, position => item.occurrences position
  | .cons item rest, position => item.occurrences position ++ rest.occurrences (position + 1)

/-- The literals in alternatives. The positions go on from one to the next. -/
def Choice.occurrences : Choice Atom Unit Repeat → (position : Nat) → List (List Step × String)
  | .last phrase, position => phrase.occurrences position
  | .cons phrase rest, position => phrase.occurrences position ++ rest.occurrences (position + phrase.length)

end

mutual

theorem Item.map_snd_occurrences : (item : Item Atom Unit Repeat) → (position : Nat) →
    (item.occurrences position).map Prod.snd = item.atoms.filterMap fun atom => atom.leaf.literal?
  | .atom (.literal _) _, _ => rfl
  | .atom (.symbol _) _, _ => rfl
  | .group _ inner _, _ => by
    rw [Item.occurrences, Item.atoms, ← Choice.map_snd_occurrences inner 0, List.map_map]
    rfl

theorem Phrase.map_snd_occurrences : (phrase : Phrase Atom Unit Repeat) → (position : Nat) →
    (phrase.occurrences position).map Prod.snd = phrase.atoms.filterMap fun atom => atom.leaf.literal?
  | .last item, position => Item.map_snd_occurrences item position
  | .cons item rest, position => by
    rw [Phrase.occurrences, Phrase.atoms, List.map_append, List.filterMap_append, Item.map_snd_occurrences item,
      Phrase.map_snd_occurrences rest]

theorem Choice.map_snd_occurrences : (choice : Choice Atom Unit Repeat) → (position : Nat) →
    (choice.occurrences position).map Prod.snd = choice.atoms.filterMap fun atom => atom.leaf.literal?
  | .last phrase, position => Phrase.map_snd_occurrences phrase position
  | .cons phrase rest, position => by
    rw [Choice.occurrences, Choice.atoms, List.map_append, List.filterMap_append, Phrase.map_snd_occurrences phrase,
      Choice.map_snd_occurrences rest]

end

theorem Phrase.literals_chain_eq_map_snd (phrase : Phrase Atom Unit Repeat) :
    (phrase.chain false .nil).literals = (phrase.occurrences 0).map Prod.snd := by
  rw [Chain.literals, Phrase.leaves_chain, Chain.leaves, List.append_nil, List.filterMap_map,
    Phrase.map_snd_occurrences]
  rfl

/-! ## Sections -/

/-- The section of a literal that a way leads to from a scope. -/
def literalSection (transliterate : Transliterator) (scope : String) (number : Int) (occurrence : List Step × String) :
    Section :=
  ⟨scope ++ wayText number occurrence.1, [⟨occurrence.2, transliterate.phones occurrence.2⟩]⟩

theorem Step.append_text (scope : String) (number : Int) (position : Nat) (repeated : Option Repeat) :
    scope ++ Step.text number ⟨position, repeated.isSome⟩ =
      (Repeat.repetition repeated).bodyName (Name.child scope (number + position)) := by
  have once : scope ++ Step.text number ⟨position, false⟩ = Name.child scope (number + position) := by
    simp [Step.text, Name.child, String.append_assoc]
  have loop : scope ++ Step.text number ⟨position, true⟩ = Name.loop (Name.child scope (number + position)) := by
    simp [Step.text, Name.loop, Name.child, String.append_assoc]
  obtain _ | r := repeated
  · exact once
  · cases r <;> exact loop

section Sections

variable (transliterate : Transliterator)

theorem literalSection_cons (scope : String) (number : Int) (step : Step) (way : List Step) (text : String) :
    literalSection transliterate scope number (step :: way, text) =
      literalSection transliterate (scope ++ step.text number) 0 (way, text) := by
  simp only [literalSection, wayText, String.append_assoc]

mutual

/-- The sections of an item are those of the literals in it. -/
theorem Item.sections_chain : (item : Item Atom Unit Repeat) → (closes : Bool) → (next : Chain) → (scope : String) →
    (number : Int) → (position : Nat) → (item.chain closes next).sections transliterate scope (number + position) =
      (item.occurrences position).map (literalSection transliterate scope number) ++
        next.sections transliterate scope (number + position + 1)
  | .atom (.literal text) repeated, closes, next, scope, number, position => by
    rw [Item.chain, Chain.sections, ← Step.append_text, Item.occurrences, List.map_singleton, literalSection_cons]
    simp only [literalSection, wayText, String.append_empty]
    rfl
  | .atom (.symbol _) _, closes, next, scope, number, position => rfl
  | .group _ inner repeated, closes, next, scope, number, position => by
    -- The names in the group start with the name that the group goes on under, and its items are numbered anew.
    have inside := Choice.sections_chain inner (scope ++ Step.text number ⟨position, repeated.isSome⟩) 0 0
    rw [Item.chain, Chain.sections, ← Step.append_text, Item.occurrences, List.map_map]
    refine congrArg (· ++ _) (inside.trans (List.map_congr_left fun occurrence _ => ?_))
    exact (literalSection_cons transliterate scope number _ occurrence.1 occurrence.2).symm

theorem Phrase.sections_chain : (phrase : Phrase Atom Unit Repeat) → (closes : Bool) → (next : Chain) →
    (scope : String) → (number : Int) → (position : Nat) →
    (phrase.chain closes next).sections transliterate scope (number + position) =
      (phrase.occurrences position).map (literalSection transliterate scope number) ++
        next.sections transliterate scope (number + (position + phrase.length : Nat))
  | .last item, closes, next, scope, number, position => by
    rw [Phrase.chain, Item.sections_chain item, Phrase.occurrences, Phrase.length, Int.natCast_succ, Int.add_assoc]
  | .cons item rest, closes, next, scope, number, position => by
    have others := Phrase.sections_chain rest closes next scope number (position + 1)
    rw [Int.natCast_succ, ← Int.add_assoc] at others
    rw [Phrase.chain, Item.sections_chain item, others, Phrase.occurrences, List.map_append, List.append_assoc,
      Phrase.length, Nat.add_right_comm, Nat.add_assoc]

theorem Choice.sections_chain : (choice : Choice Atom Unit Repeat) → (scope : String) → (number : Int) →
    (position : Nat) → choice.chain.sections transliterate scope (number + position) =
      (choice.occurrences position).map (literalSection transliterate scope number)
  | .last phrase, scope, number, position => by
    rw [Choice.chain, Phrase.sections_chain phrase, Chain.sections, List.append_nil, Choice.occurrences]
  | .cons phrase rest, scope, number, position => by
    rw [Choice.chain, Phrase.sections_chain phrase, Choice.sections_chain rest, Choice.occurrences, List.map_append]

end

theorem Item.count_chain (item : Item Atom Unit Repeat) (closes : Bool) (next : Chain) :
    (item.chain closes next).count = next.count + 1 := by
  cases item <;> rfl

theorem Phrase.count_chain (phrase : Phrase Atom Unit Repeat) (closes : Bool) (next : Chain) :
    (phrase.chain closes next).count = next.count + phrase.length := by
  cases phrase with
  | last item => exact item.count_chain closes next
  | cons item rest => rw [Phrase.chain, Item.count_chain, Phrase.count_chain rest closes next, Phrase.length, Nat.add_assoc]

end Sections

/-! ## The literals of a text -/

/-- The text that a token stands for, if it is a literal. -/
def Token.literalText? : Token → Option String
  | .literal spelling => some (String.ofList (literalText spelling))
  | _ => none

/-- The texts of the literals that a pattern is written with, from left to right. -/
def literalTexts (text : List Char) : List String :=
  (scan text).filterMap fun lexeme => lexeme.token.literalText?

theorem filterMap_literalText?_repeat? (repeated : Option WrittenRepeat) :
    (tokenScript.repeat? repeated).filterMap Token.literalText? = [] := by
  obtain _ | r := repeated
  · rfl
  · cases r <;> rfl

-- Only the tokens of atoms are literals: brackets, bars and repeats add none.
mutual

theorem Item.filterMap_literalText? : (item : Item WrittenAtom Nat WrittenRepeat) →
    (item.write tokenScript).filterMap Token.literalText? = item.meaning.atoms.filterMap fun atom => atom.leaf.literal?
  | .atom content repeated => by
    rw [Item.write, List.filterMap_append, filterMap_literalText?_repeat?, List.append_nil]
    cases content <;> rfl
  | .group label inner repeated => by
    have inside := Choice.filterMap_literalText? inner
    simp only [Item.write, List.filterMap_append, List.filterMap_cons, filterMap_literalText?_repeat?, inside,
      tokenScript_opening, tokenScript_closing, Token.literalText?, List.append_nil]
    rfl

theorem Phrase.filterMap_literalText? : (phrase : Phrase WrittenAtom Nat WrittenRepeat) →
    (phrase.write tokenScript).filterMap Token.literalText? =
      phrase.meaning.atoms.filterMap fun atom => atom.leaf.literal?
  | .last item => Item.filterMap_literalText? item
  | .cons item rest => by
    rw [Phrase.write, List.filterMap_append, Item.filterMap_literalText? item, Phrase.filterMap_literalText? rest,
      ← List.filterMap_append]
    rfl

theorem Choice.filterMap_literalText? : (choice : Choice WrittenAtom Nat WrittenRepeat) →
    (choice.write tokenScript).filterMap Token.literalText? =
      choice.meaning.atoms.filterMap fun atom => atom.leaf.literal?
  | .last phrase => Phrase.filterMap_literalText? phrase
  | .cons phrase rest => by
    rw [Choice.write, List.filterMap_append, Phrase.filterMap_literalText? phrase, tokenScript_bar,
      List.filterMap_cons_none rfl, Choice.filterMap_literalText? rest, ← List.filterMap_append]
    rfl

end

/-- The literals of a text are those of the expression that it spells. -/
theorem SpelledBy.literalTexts_eq {expression : Expression} {text : List Char} (spelled : expression.SpelledBy text) :
    literalTexts text = (expression.occurrences 0).map Prod.snd := by
  obtain ⟨_, listed, rendered⟩ := spelled
  obtain ⟨written, rfl, rfl, proper⟩ := mem_spellings_iff.1 listed
  rw [Phrase.map_snd_occurrences, ← Phrase.filterMap_literalText?, ← map_token_scan proper.1 rendered,
    List.filterMap_map]
  rfl

/-- The lines of a literal in the vocabulary file. -/
def literalLines (phones : String → String) (number : Int) (occurrence : List Step × String) : String :=
  "% " ++ ("WORD" ++ wayText number occurrence.1) ++ "\n" ++ (occurrence.2 ++ "\t" ++ phones occurrence.2 ++ "\n")

theorem text_literalSection (transliterate : Transliterator) (number : Int) (occurrence : List Step × String) :
    (literalSection transliterate "WORD" number occurrence).text = literalLines transliterate.phones number occurrence := by
  have single : ∀ line : String, String.join [line] = line := by
    intro line
    simp [String.join]
  exact congrArg (_ ++ ·) (single _)

/-- Lowering an accepted pattern fails for the first of its obstacles. If no number is too large, the obstacles are what
the transliterator says of the literals that it refuses, from left to right. Without obstacles the vocabulary file has
the lines of every literal that is written, from left to right, under the way to it, and the items of the next pattern
are numbered on from those of this one. -/
theorem lower_eq_literalSections [Limits] {source : Source} {table : NodeTable} (accepted : parse source = .ok table)
    (transliterate : Transliterator) (number : Int) :
    ∃ expression : Expression, expression.SpelledBy source.pattern.toList ∧
      (expression.occurrences 0).map Prod.snd = literalTexts source.pattern.toList ∧
      (∀ fault, table.lower transliterate number = .error fault ↔
        (table.chain.sentenceObstacles transliterate number).head? = some fault) ∧
      (table.chain.Fits number → table.chain.sentenceObstacles transliterate number =
        (literalTexts source.pattern.toList).filterMap transliterate.fault?) ∧
      (table.chain.sentenceObstacles transliterate number = [] → ∃ lowered phones,
        table.lower transliterate number = .ok lowered ∧
        (∀ text ∈ literalTexts source.pattern.toList, transliterate text = .ok (phones text)) ∧
        lowered.vocabulary.text = String.join ((expression.occurrences 0).map (literalLines phones number)) ∧
        lowered.nextNumber = number + expression.length) := by
  obtain ⟨expression, spelled, denotes⟩ := exists_spelledBy_of_parse accepted
  have known : (expression.chain false .nil).IsKnown := Phrase.isKnown_chain expression trivial
  have fails := Chain.failure?_sentence transliterate known number
  have texts := SpelledBy.literalTexts_eq spelled
  rw [NodeTable.lower_eq_sentence, denotes]
  refine ⟨expression, spelled, texts.symm, fun fault => ?_, fun fits => ?_, fun free => ?_⟩
  · rw [← fails, failure?_eq_some_iff]
  · rw [Chain.sentenceObstacles_eq_of_fits transliterate known fits, texts, Phrase.literals_chain_eq_map_snd]
  · rw [free, List.head?_nil, failure?_eq_none_iff] at fails
    obtain ⟨lowered, lowers⟩ := fails
    obtain ⟨_, _, pronounceable, rfl⟩ := Chain.sentence_eq_ok_iff.1 lowers
    refine ⟨_, transliterate.phones, lowers, fun text listed => ?_, ?_, ?_⟩
    · rw [texts, ← Phrase.literals_chain_eq_map_snd] at listed
      obtain ⟨phones, said⟩ := pronounceable text listed
      rw [Transliterator.phones, said]
    · have sections := Phrase.sections_chain transliterate expression false .nil "WORD" number 0
      rw [Chain.sections, List.append_nil, Int.natCast_zero, Int.add_zero] at sections
      rw [Chain.sentenceLowered, Vocabulary.text, Name.wordScope, sections, List.map_map]
      exact congrArg String.join (List.map_congr_left fun _ _ => text_literalSection ..)
    · rw [Chain.sentenceLowered, Phrase.count_chain, Chain.count, Nat.zero_add]

/-- A repeated group of two alternatives, and a literal that is said twice or three times. -/
def wordsSource : Source := ⟨"(<b> 'a' | \"c\"+)* 'a'\x7b2,3\x7d", "example", 1⟩

section
open scoped Workstation

theorem lower_eq_literalSections_nested : ∃ table, parse wordsSource = .ok table ∧
    ∃ (expression : Expression) (lowered : Lowered) (phones : String → String),
      expression.SpelledBy wordsSource.pattern.toList ∧ (expression.occurrences 0).map Prod.snd = ["a", "c", "a"] ∧
      table.lower (Transliterator.avoiding "bad") 7 = .ok lowered ∧
      lowered.vocabulary.text = String.join ((expression.occurrences 0).map (literalLines phones 7)) ∧
      lowered.vocabulary.text = "% WORD_7_LOOP_1\na\ta\n% WORD_7_LOOP_2_LOOP\nc\tc\n% WORD_8_LOOP\na\ta\n" ∧
      lowered.nextNumber = 7 + expression.length ∧
      table.lower (Transliterator.avoiding "c") 7 = .error (.transliteration (.unpronounceable ⟨"c", 0, 'c'⟩)) := by
  obtain ⟨table, accepted, free, words, refused⟩ : ∃ table, parse wordsSource = .ok table ∧
      table.chain.sentenceObstacles (Transliterator.avoiding "bad") 7 = [] ∧
      (table.lower (Transliterator.avoiding "bad") 7).toOption.map (·.vocabulary.text) =
        some "% WORD_7_LOOP_1\na\ta\n% WORD_7_LOOP_2_LOOP\nc\tc\n% WORD_8_LOOP\na\ta\n" ∧
      (table.chain.sentenceObstacles (Transliterator.avoiding "c") 7).head? =
        some (.transliteration (.unpronounceable ⟨"c", 0, 'c'⟩)) :=
    ⟨_, rfl, by decide +kernel⟩
  have texts : literalTexts wordsSource.pattern.toList = ["a", "c", "a"] := by decide +kernel
  obtain ⟨expression, spelled, listed, _, _, lowers⟩ :=
    lower_eq_literalSections accepted (Transliterator.avoiding "bad") 7
  obtain ⟨_, _, _, fails, _⟩ := lower_eq_literalSections accepted (Transliterator.avoiding "c") 7
  obtain ⟨lowered, phones, isLowered, _, lines, next⟩ := lowers free
  rw [isLowered] at words
  exact ⟨table, accepted, expression, lowered, phones, spelled, listed.trans texts, isLowered, lines,
    Option.some.inj words, next, (fails _).2 refused⟩

/-- A literal is not reached if an item before it is said too often. -/
theorem lower_eq_capacity_of_refusal : ∃ table, parse (timesSource "\x7b99999999999999999999\x7d") = .ok table ∧
    (literalTexts (timesSource "\x7b99999999999999999999\x7d").pattern.toList).filterMap
      (Transliterator.avoiding "bad").fault? = [.transliteration (.unpronounceable ⟨"bad", 0, 'b'⟩)] ∧
    table.lower (Transliterator.avoiding "bad") 0 = .error (.capacity .notIndexSized) :=
  ⟨_, rfl, by decide +kernel, @lower_eq_capacity _ _ 99999999999999999999 _ (by decide +kernel) (by decide +kernel) _⟩

end

end Pattern

end Utterance
