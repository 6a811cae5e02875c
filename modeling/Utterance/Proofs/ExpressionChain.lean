import Utterance.Proofs.ChainLanguage
import Utterance.Proofs.Written

/-!
# The chain of an expression

The chain of an expression has its atoms for leaves, nothing in it is unknown, and its items say what the items of the
expression say: the product of the languages of its top-level items is the language of the expression
(`Phrase.prod_languages_chain`).
-/

namespace Utterance.Pattern
set_option autoImplicit false
open scoped Computability

theorem Repeat.isKnown_repetition (repeated : Option Repeat) : (repetition repeated).IsKnown := by
  obtain _ | r := repeated
  · trivial
  · cases r <;> trivial

theorem Repeat.isOrdered_repetition {repeated : Option Repeat} (ordered : ∀ r ∈ repeated, r.IsOrdered) :
    (repetition repeated).IsOrdered := by
  obtain _ | r := repeated
  · trivial
  · have single := ordered r rfl
    cases r with
    | range least most =>
      have : least ≤ most := single
      simpa [repetition, Repetition.IsOrdered] using this
    | exactly count => exact Int.le_refl _
    | optional => exact (by decide : (0 : Int) ≤ 1)
    | _ => trivial

/-- A repetition with natural bounds says a natural number of times. -/
theorem language_range (least most : Nat) (once : Language Leaf) :
    (Repetition.range least most).language once = (Repeat.range least most).language once := by
  ext words
  rw [Repetition.mem_language_range]
  simp only [Repeat.language, Language.mem_iSup, exists_prop, and_assoc]
  constructor
  · rintro ⟨count, low, high, said⟩
    exact ⟨count.toNat, by omega, by omega, said⟩
  · rintro ⟨count, low, high, said⟩
    exact ⟨count, by omega, by omega, said⟩

/-- The repetition of a repeat says the same. -/
theorem language_repetition (repeated : Option Repeat) (once : Language Leaf) :
    (Repeat.repetition repeated).language once = repeated.elim once (Repeat.language once) := by
  obtain _ | r := repeated
  · rfl
  · cases r with
    | range least most => exact language_range least most once
    | exactly count =>
      refine (language_range count count once).trans ?_
      ext words
      simp only [Repeat.language, Language.mem_iSup, exists_prop, Option.elim]
      constructor
      · rintro ⟨times, ⟨low, high⟩, said⟩
        rwa [Nat.le_antisymm low high]
      · exact fun said => ⟨count, ⟨Nat.le_refl _, Nat.le_refl _⟩, said⟩
    | optional =>
      refine (language_range 0 1 once).trans ?_
      ext words
      simp only [Repeat.language, Language.mem_iSup, exists_prop, Option.elim, Language.mem_add]
      constructor
      · rintro ⟨times, ⟨_, high⟩, said⟩
        obtain rfl | rfl : times = 0 ∨ times = 1 := by omega
        · exact .inl (by simpa using said)
        · exact .inr (by simpa using said)
      · rintro (said | said)
        · exact ⟨0, by omega, by simpa using said⟩
        · exact ⟨1, by omega, by simpa using said⟩
    | oneOrMore => rfl
    | zeroOrMore => rfl

mutual

theorem Item.leaves_chain : (item : Item Atom Unit Repeat) → (closes : Bool) → (next : Chain) →
    (item.chain closes next).leaves = item.atoms.map Atom.leaf ++ next.leaves
  | .atom _ _, _, _ => rfl
  | .group _ inner _, _, _ => by rw [Item.chain, Chain.leaves, Choice.leaves_chain inner, Item.atoms]

theorem Phrase.leaves_chain : (phrase : Phrase Atom Unit Repeat) → (closes : Bool) → (next : Chain) →
    (phrase.chain closes next).leaves = phrase.atoms.map Atom.leaf ++ next.leaves
  | .last item, _, _ => Item.leaves_chain item ..
  | .cons item rest, _, _ => by
    rw [Phrase.chain, Item.leaves_chain item, Phrase.leaves_chain rest, Phrase.atoms, List.map_append,
      List.append_assoc]

theorem Choice.leaves_chain : (choice : Choice Atom Unit Repeat) → choice.chain.leaves = choice.atoms.map Atom.leaf
  | .last phrase => by rw [Choice.chain, Phrase.leaves_chain phrase, Chain.leaves, List.append_nil, Choice.atoms]
  | .cons phrase rest => by
    rw [Choice.chain, Phrase.leaves_chain phrase, Choice.leaves_chain rest, Choice.atoms, List.map_append]

end

mutual

theorem Item.isKnown_chain : (item : Item Atom Unit Repeat) → {closes : Bool} → {next : Chain} → next.IsKnown →
    (item.chain closes next).IsKnown
  | .atom content _, _, _, known => ⟨by cases content <;> trivial, Repeat.isKnown_repetition _, known⟩
  | .group _ inner _, _, _, known => ⟨Choice.isKnown_chain inner, Repeat.isKnown_repetition _, known⟩

theorem Phrase.isKnown_chain : (phrase : Phrase Atom Unit Repeat) → {closes : Bool} → {next : Chain} →
    next.IsKnown → (phrase.chain closes next).IsKnown
  | .last item, _, _, known => Item.isKnown_chain item known
  | .cons item rest, _, _, known => Item.isKnown_chain item (Phrase.isKnown_chain rest known)

theorem Choice.isKnown_chain : (choice : Choice Atom Unit Repeat) → choice.chain.IsKnown
  | .last phrase => Phrase.isKnown_chain phrase trivial
  | .cons phrase rest => Phrase.isKnown_chain phrase (Choice.isKnown_chain rest)

end

theorem Phrase.count_chain_ne_zero (phrase : Phrase Atom Unit Repeat) (closes : Bool) (next : Chain) :
    (phrase.chain closes next).count ≠ 0 := by
  cases phrase with
  | last item => cases item <;> simp [Phrase.chain, Item.chain, Chain.count]
  | cons item rest => cases item <;> simp [Phrase.chain, Item.chain, Chain.count]

theorem Choice.count_chain_ne_zero (choice : Choice Atom Unit Repeat) : choice.chain.count ≠ 0 := by
  cases choice with
  | last phrase => exact phrase.count_chain_ne_zero _ _
  | cons phrase rest => exact phrase.count_chain_ne_zero _ _

mutual

theorem Item.isProper_chain : (item : Item Atom Unit Repeat) → {closes : Bool} → {next : Chain} →
    (∀ r ∈ item.repeats, r.IsOrdered) → next.IsProper → (item.chain closes next).IsProper
  | .atom _ repeated, _, _, ordered, proper =>
    ⟨Repeat.isOrdered_repetition fun r member => ordered r (by simpa [Item.repeats] using member), proper⟩
  | .group _ inner repeated, _, _, ordered, proper => by
    rw [Item.repeats, List.forall_mem_append] at ordered
    exact ⟨⟨inner.count_chain_ne_zero, Choice.isProper_chain inner ordered.1⟩,
      Repeat.isOrdered_repetition fun r member => ordered.2 r (by simpa using member), proper⟩

theorem Phrase.isProper_chain : (phrase : Phrase Atom Unit Repeat) → {closes : Bool} → {next : Chain} →
    (∀ r ∈ phrase.repeats, r.IsOrdered) → next.IsProper → (phrase.chain closes next).IsProper
  | .last item, _, _, ordered, proper => Item.isProper_chain item ordered proper
  | .cons item rest, _, _, ordered, proper => by
    rw [Phrase.repeats, List.forall_mem_append] at ordered
    exact Item.isProper_chain item ordered.1 (Phrase.isProper_chain rest ordered.2 proper)

theorem Choice.isProper_chain : (choice : Choice Atom Unit Repeat) → (∀ r ∈ choice.repeats, r.IsOrdered) →
    choice.chain.IsProper
  | .last phrase, ordered => Phrase.isProper_chain phrase ordered trivial
  | .cons phrase rest, ordered => by
    rw [Choice.repeats, List.forall_mem_append] at ordered
    exact Phrase.isProper_chain phrase ordered.1 (Choice.isProper_chain rest ordered.2)

end

/-! ## Languages -/

/-- The languages of the items of a phrase. -/
def Phrase.itemLanguages : Phrase Atom Unit Repeat → List (Language Leaf)
  | .last item => [item.language]
  | .cons item rest => item.language :: rest.itemLanguages

theorem Phrase.prod_itemLanguages : (phrase : Phrase Atom Unit Repeat) → phrase.itemLanguages.prod = phrase.language
  | .last item => by simp [Phrase.itemLanguages, Phrase.language]
  | .cons item rest => by
    rw [Phrase.itemLanguages, List.prod_cons, Phrase.prod_itemLanguages rest, Phrase.language]

-- A phrase is one piece of the chain: it ends where its last item is flagged, or where the chain ends.
mutual

theorem Item.languages_chain : (item : Item Atom Unit Repeat) → (closes : Bool) → (next : Chain) →
    (item.chain closes next).languages = (item.language, closes) :: next.languages
  | .atom content repeated, closes, next => by
    rw [Item.chain, Chain.languages, language_repetition, Item.language]
  | .group _ inner repeated, closes, next => by
    rw [Item.chain, Chain.languages, language_repetition, Choice.sum_languages_chain inner, Item.language]

theorem Phrase.splitAfter_languages_chain : (phrase : Phrase Atom Unit Repeat) → {closes : Bool} → {next : Chain} →
    closes = true ∨ next = .nil →
    splitAfter (phrase.chain closes next).languages = phrase.itemLanguages :: splitAfter next.languages
  | .last item, closes, next, ends => by
    rw [Phrase.chain, Item.languages_chain item]
    obtain rfl | rfl := ends
    · rfl
    · cases closes <;> rfl
  | .cons item rest, closes, next, ends => by
    rw [Phrase.chain, Item.languages_chain item, splitAfter, Phrase.splitAfter_languages_chain rest ends,
      Phrase.itemLanguages]

theorem Choice.sum_languages_chain : (choice : Choice Atom Unit Repeat) →
    ((splitAfter choice.chain.languages).map List.prod).sum = choice.language
  | .last phrase => by
    rw [Choice.chain, Phrase.splitAfter_languages_chain phrase (.inr rfl), Choice.language, List.map_cons,
      Phrase.prod_itemLanguages]
    simp [Chain.languages, splitAfter]
  | .cons phrase rest => by
    rw [Choice.chain, Phrase.splitAfter_languages_chain phrase (.inl rfl), Choice.language, List.map_cons,
      Phrase.prod_itemLanguages, List.sum_cons, Choice.sum_languages_chain rest]

end

/-- The items of the chain of a phrase say, one after the other, what the phrase says. -/
theorem Phrase.prod_languages_chain (phrase : Phrase Atom Unit Repeat) :
    ((phrase.chain false .nil).languages.map Prod.fst).prod = phrase.language := by
  rw [← flatten_splitAfter, Phrase.splitAfter_languages_chain phrase (.inr rfl), ← phrase.prod_itemLanguages]
  simp [Chain.languages, splitAfter]

end Utterance.Pattern
