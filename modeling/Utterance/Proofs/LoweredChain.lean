import Utterance.Proofs.Names
import Utterance.Proofs.Unfolding

/-!
# What a chain is lowered to

`Chain.lower` may fail at every item. Here are its parts for the case that nothing fails: the productions, the sections
and the numbers of a chain. `lower_eq_ok_iff` says when nothing fails and that these are then the result, and
`NodeTable.lower_eq_ok_iff` the same of the table that the chain is read from.
-/

namespace Utterance
set_option autoImplicit false

namespace Repetition

/-- The symbols for saying an item `count` times. -/
def countedBody (name : String) (count : Int) : List String :=
  if count = 0 then [Name.noise] else List.replicate count.toNat (Name.loop name)

/-- The symbols for saying an item each of `left` numbers of times, from `count` on. -/
def countedBodies (name : String) : (left : Nat) → (count : Int) → List (List String)
  | 0, _ => []
  | left + 1, count => countedBody name count :: countedBodies name left (count + 1)

/-- What an item may be replaced by for its repetition. -/
def bodies (name : String) : Repetition → List (List String)
  | .once => []
  | .range least most => countedBodies name (most + 1 - least).toNat least
  | .zeroOrMore => [[Name.noise], [Name.loop name], [name, Name.loop name]]
  | .oneOrMore => [[Name.loop name], [name, Name.loop name]]
  | .other _ _ _ => []

/-- The repetition has a meaning. -/
def IsKnown : Repetition → Prop
  | .other _ _ _ => False
  | _ => True

/-- Every number of times that the repetition allows can be made. -/
def Fits [Limits] : Repetition → Prop
  | .range least most => ∀ count, least ≤ count → count ≤ most → count ≠ 0 → repetitionFault? least count = none
  | _ => True

theorem repeatedSymbols_eq_ok_iff [Limits] {name : String} {least count : Int} {symbols : List String} :
    repeatedSymbols (Name.loop name) least count = .ok symbols ↔
      (count ≠ 0 → repetitionFault? least count = none) ∧ symbols = countedBody name count := by
  unfold repeatedSymbols countedBody
  split
  · simp_all [eq_comm]
  · cases repetitionFault? least count <;> simp_all [eq_comm]

theorem mem_countedBodies {name : String} {left : Nat} {count : Int} {body : List String} :
    body ∈ countedBodies name left count ↔
      ∃ times, count ≤ times ∧ times < count + left ∧ body = countedBody name times := by
  induction left generalizing count with
  | zero =>
    simp only [countedBodies, List.not_mem_nil, false_iff]
    rintro ⟨times, _, _, _⟩
    omega
  | succ left ih =>
    simp only [countedBodies, List.mem_cons, ih]
    constructor
    · rintro (rfl | ⟨times, low, high, rfl⟩)
      · exact ⟨count, by omega, by omega, rfl⟩
      · exact ⟨times, by omega, by omega, rfl⟩
    · rintro ⟨times, low, high, rfl⟩
      by_cases first : times = count
      · exact .inl (by rw [first])
      · exact .inr ⟨times, by omega, by omega, rfl⟩

theorem countedProductions_eq_ok_iff [Limits] {name : String} {left : Nat} {least count : Int}
    {productions : List Production} :
    countedProductions name least left count = .ok productions ↔
      (∀ times, count ≤ times → times < count + left → times ≠ 0 → repetitionFault? least times = none) ∧
        productions = (countedBodies name left count).map (Production.mk name) := by
  induction left generalizing count productions with
  | zero =>
    simp only [countedProductions, countedBodies, List.map_nil, Except.ok.injEq, eq_comm (b := productions)]
    refine ⟨fun same => ⟨?_, same⟩, And.right⟩
    intro times low high
    omega
  | succ left ih =>
    simp only [countedProductions, bind_eq_ok_iff, mapError_eq_ok_iff, repeatedSymbols_eq_ok_iff, ih]
    constructor
    · rintro ⟨_, ⟨first, rfl⟩, _, ⟨later, rfl⟩, same⟩
      cases same
      refine ⟨?_, rfl⟩
      intro times low high
      by_cases same : times = count
      · exact same ▸ first
      · exact later times (by omega) (by omega)
    · rintro ⟨fits, rfl⟩
      refine ⟨_, ⟨fits count (by omega) (by omega), rfl⟩, _, ⟨?_, rfl⟩, rfl⟩
      intro times low high
      exact fits times (by omega) (by omega)

theorem productions_eq_ok_iff [Limits] {name : String} {repetition : Repetition} {productions : List Production} :
    repetition.productions name = .ok productions ↔
      repetition.IsKnown ∧ repetition.Fits ∧ productions = (repetition.bodies name).map (Production.mk name) := by
  cases repetition with
  | once => simp [Repetition.productions, IsKnown, Fits, bodies, eq_comm]
  | range least most =>
    simp only [Repetition.productions, countedProductions_eq_ok_iff, IsKnown, Fits, bodies, true_and]
    refine and_congr_left' (forall_congr' fun times => ?_)
    constructor
    · intro fits low high
      exact fits low (by omega)
    · intro fits low high
      exact fits low (by omega)
  | zeroOrMore => simp [Repetition.productions, IsKnown, Fits, bodies, eq_comm]
  | oneOrMore => simp [Repetition.productions, IsKnown, Fits, bodies, eq_comm]
  | other kind least most => simp [Repetition.productions, IsKnown]

end Repetition

/-- The phones of a word, if it has some. -/
def Transliterator.phones (transliterate : Transliterator) (word : String) : String :=
  match transliterate word with
  | .ok phones => phones
  | .error _ => ""

namespace Leaf

/-- The leaf has a meaning. -/
def IsKnown : Leaf → Prop
  | .other _ => False
  | _ => True

/-- The text of a literal. -/
def literal? : Leaf → Option String
  | .literal text => some text
  | _ => none

/-- The name of a symbol. -/
def symbol? : Leaf → Option String
  | .symbol name => some name
  | _ => none

/-- What a leaf is replaced by. -/
def productions (name : String) : Leaf → Grammar
  | .symbol reference => [⟨name, [reference]⟩]
  | _ => []

/-- The section of a literal. -/
def sections (transliterate : Transliterator) (name : String) : Leaf → Vocabulary
  | .literal text => [⟨name, [⟨text, transliterate.phones text⟩]⟩]
  | _ => []

theorem lower_eq_ok_iff {transliterate : Transliterator} {name : String} {leaf : Leaf} {result : Grammar × Vocabulary} :
    leaf.lower transliterate name = .ok result ↔
      leaf.IsKnown ∧ (∀ text ∈ leaf.literal?, ∃ phones, transliterate text = .ok phones) ∧
        result = (leaf.productions name, leaf.sections transliterate name) := by
  cases leaf with
  | literal text =>
    cases said : transliterate text <;>
      simp [Leaf.lower, IsKnown, literal?, productions, sections, Transliterator.phones, said, eq_comm]
  | symbol reference => simp [Leaf.lower, IsKnown, literal?, productions, sections, eq_comm]
  | other kind => simp [Leaf.lower, IsKnown]

end Leaf

namespace Chain

/-- The leaves of a chain, in the order they are written. -/
def leaves : Chain → List Leaf
  | .nil => []
  | .broken _ => []
  | .leaf content _ _ next => content :: next.leaves
  | .group inner _ _ next => inner.leaves ++ next.leaves

/-- The repetitions of all items, in the order they are written. -/
def repetitions : Chain → List Repetition
  | .nil => []
  | .broken _ => []
  | .leaf _ repetition _ next => repetition :: next.repetitions
  | .group inner repetition _ next => repetition :: (inner.repetitions ++ next.repetitions)

/-- The texts of the literals. -/
def literals (chain : Chain) : List String := chain.leaves.filterMap Leaf.literal?

/-- The names of the symbols. -/
def symbols (chain : Chain) : List String := chain.leaves.filterMap Leaf.symbol?

/-- How many items the chain has, not counting those inside of groups. -/
def count : Chain → Nat
  | .nil => 0
  | .broken _ => 0
  | .leaf _ _ _ next => next.count + 1
  | .group _ _ _ next => next.count + 1

/-- No link is broken, and every leaf and repetition has a meaning. -/
def IsKnown : Chain → Prop
  | .nil => True
  | .broken _ => False
  | .leaf content repetition _ next => content.IsKnown ∧ repetition.IsKnown ∧ next.IsKnown
  | .group inner repetition _ next => inner.IsKnown ∧ repetition.IsKnown ∧ next.IsKnown

/-- Every number of an item can be written, and everything that is repeated can be made. -/
def Fits [Limits] : (number : Int) → Chain → Prop
  | _, .nil => True
  | _, .broken _ => True
  | number, .leaf _ repetition _ next => isWritable number ∧ repetition.Fits ∧ next.Fits (number + 1)
  | number, .group inner repetition _ next =>
    isWritable number ∧ repetition.Fits ∧ inner.Fits 0 ∧ next.Fits (number + 1)

/-- The numbers of the items, counted from `number`, each with whether it ends its alternative. -/
def numbering : (number : Int) → Chain → List (Int × Bool)
  | _, .nil => []
  | _, .broken _ => []
  | number, .leaf _ _ closes next => (number, closes) :: next.numbering (number + 1)
  | number, .group _ _ closes next => (number, closes) :: next.numbering (number + 1)

/-- What a group is replaced by, its children having the numbers from 0 on. -/
def alternativeBodies (name : String) (inner : Chain) : List (List String) :=
  (splitAfter (inner.numbering 0)).map (List.map (Name.child name))

/-- The productions of the items of a chain in a scope, numbered from `number`. -/
def productions : (scope : String) → (number : Int) → Chain → Grammar
  | _, _, .nil => []
  | _, _, .broken _ => []
  | scope, number, .leaf content repetition _ next =>
    let name := Name.child scope number
    (repetition.bodies name).map (Production.mk name) ++ content.productions (repetition.bodyName name) ++
      next.productions scope (number + 1)
  | scope, number, .group inner repetition _ next =>
    let name := Name.child scope number
    let body := repetition.bodyName name
    (repetition.bodies name).map (Production.mk name) ++ (inner.alternativeBodies body).map (Production.mk body) ++
      inner.productions body 0 ++ next.productions scope (number + 1)

/-- The sections of the literals of a chain in a scope, numbered from `number`. -/
def sections (transliterate : Transliterator) : (scope : String) → (number : Int) → Chain → Vocabulary
  | _, _, .nil => []
  | _, _, .broken _ => []
  | scope, number, .leaf content repetition _ next =>
    content.sections transliterate (repetition.bodyName (Name.child scope number)) ++
      next.sections transliterate scope (number + 1)
  | scope, number, .group inner repetition _ next =>
    inner.sections transliterate (repetition.bodyName (Name.child scope number)) 0 ++
      next.sections transliterate scope (number + 1)

theorem numbers_eq_ok {chain : Chain} (known : chain.IsKnown) (number : Int) :
    chain.numbers number = .ok (chain.numbering number) := by
  induction chain generalizing number with
  | nil => rfl
  | broken index => exact known.elim
  | leaf content repetition closes next ih => simp [Chain.numbers, numbering, ih known.2.2, Except.map]
  | group inner repetition closes next _ ih => simp [Chain.numbers, numbering, ih known.2.2, Except.map]

theorem alternatives_eq_ok {inner : Chain} (known : inner.IsKnown) (name : String) :
    inner.alternatives name = .ok ((inner.alternativeBodies name).map (Production.mk name)) := by
  simp [Chain.alternatives, numbers_eq_ok known, Except.map, alternativeBodies]

theorem itemName_eq_ok_iff {scope name : String} {number : Int} :
    itemName scope number = .ok name ↔ isWritable number ∧ name = Name.child scope number := by
  unfold itemName
  split
  · rename_i writable
    simp only [writable, true_and, Except.ok.injEq, eq_comm]
  · rename_i unwritable
    simp only [unwritable, reduceCtorEq, false_and]

/-- Every literal of the chain has phones. -/
def Pronounceable (transliterate : Transliterator) (chain : Chain) : Prop :=
  ∀ text ∈ chain.literals, ∃ phones, transliterate text = .ok phones

theorem pronounceable_leaf {transliterate : Transliterator} {content : Leaf} {repetition : Repetition} {closes : Bool}
    {next : Chain} :
    (Chain.leaf content repetition closes next).Pronounceable transliterate ↔
      (∀ text ∈ content.literal?, ∃ phones, transliterate text = .ok phones) ∧ next.Pronounceable transliterate := by
  cases said : content.literal? <;> simp [Pronounceable, literals, leaves, said]

theorem pronounceable_group {transliterate : Transliterator} {inner : Chain} {repetition : Repetition} {closes : Bool}
    {next : Chain} :
    (Chain.group inner repetition closes next).Pronounceable transliterate ↔
      inner.Pronounceable transliterate ∧ next.Pronounceable transliterate := by
  simp only [Pronounceable, literals, leaves, List.filterMap_append, List.mem_append, or_imp, forall_and]

/-- A chain is lowered if it is known, fits and can be pronounced, and then to its productions and sections. -/
theorem lower_eq_ok_iff [Limits] {transliterate : Transliterator} {scope : String} {number : Int} {chain : Chain}
    {lowered : Lowered} :
    chain.lower transliterate scope number = .ok lowered ↔
      chain.IsKnown ∧ chain.Fits number ∧ chain.Pronounceable transliterate ∧
        lowered = ⟨chain.productions scope number, chain.sections transliterate scope number, number + chain.count⟩ := by
  have shift : ∀ (first : Int) (next : Chain), first + 1 + (next.count : Int) = first + ((next.count + 1 : Nat) : Int) := by
    intro first next
    omega
  induction chain generalizing scope number lowered with
  | nil =>
    simp [Chain.lower, IsKnown, Fits, Pronounceable, literals, leaves, productions, sections, count, eq_comm]
  | broken index => simp [Chain.lower, IsKnown]
  | leaf content repetition closes next ih =>
    simp only [Chain.lower, bind_eq_ok_iff, itemName_eq_ok_iff, Repetition.productions_eq_ok_iff,
      Leaf.lower_eq_ok_iff, ih, IsKnown, Fits, pronounceable_leaf]
    constructor
    · rintro ⟨_, ⟨writable, rfl⟩, _, ⟨meaning, fits, rfl⟩, _, ⟨known, said, rfl⟩, _, ⟨rest, room, sound, rfl⟩, same⟩
      cases same
      refine ⟨⟨known, meaning, rest⟩, ⟨writable, fits, room⟩, ⟨said, sound⟩, ?_⟩
      simp only [productions, sections, count, shift]
    · rintro ⟨⟨known, meaning, rest⟩, ⟨writable, fits, room⟩, ⟨said, sound⟩, rfl⟩
      refine ⟨_, ⟨writable, rfl⟩, _, ⟨meaning, fits, rfl⟩, _, ⟨known, said, rfl⟩, _, ⟨rest, room, sound, rfl⟩, ?_⟩
      simp only [productions, sections, count, shift, pure, Except.pure]
  | group inner repetition closes next ihInner ih =>
    simp only [Chain.lower, bind_eq_ok_iff, itemName_eq_ok_iff, Repetition.productions_eq_ok_iff,
      ihInner, ih, IsKnown, Fits, pronounceable_group]
    constructor
    · rintro ⟨_, ⟨writable, rfl⟩, _, ⟨meaning, fits, rfl⟩, _, alternatives, _, ⟨known, within, said, rfl⟩, _,
        ⟨rest, room, sound, rfl⟩, same⟩
      rw [alternatives_eq_ok known] at alternatives
      cases alternatives
      cases same
      refine ⟨⟨known, meaning, rest⟩, ⟨writable, fits, within, room⟩, ⟨said, sound⟩, ?_⟩
      simp only [productions, sections, count, shift]
    · rintro ⟨⟨known, meaning, rest⟩, ⟨writable, fits, within, room⟩, ⟨said, sound⟩, rfl⟩
      refine ⟨_, ⟨writable, rfl⟩, _, ⟨meaning, fits, rfl⟩, _, alternatives_eq_ok known _, _,
        ⟨known, within, said, rfl⟩, _, ⟨rest, room, sound, rfl⟩, ?_⟩
      simp only [productions, sections, count, shift, pure, Except.pure]

theorem isWritable_of_fits [Limits] {chain : Chain} {number : Int} (fits : chain.Fits number) :
    ∀ entry ∈ chain.numbering number, isWritable entry.1 := by
  induction chain generalizing number with
  | nil => simp [numbering]
  | broken index => simp [numbering]
  | leaf content repetition closes next ih =>
    simp only [numbering, List.forall_mem_cons]
    exact ⟨fits.1, ih fits.2.2⟩
  | group inner repetition closes next _ ih =>
    simp only [numbering, List.forall_mem_cons]
    exact ⟨fits.1, ih fits.2.2.2⟩

/-- The productions of a top-level chain: its roots and its words. -/
def sentenceProductions (number : Int) (chain : Chain) : Grammar :=
  rootProductions ((chain.numbering number).map Prod.fst) ++ chain.productions Name.wordScope number

/-- What a top-level chain is lowered to. -/
def sentenceLowered (transliterate : Transliterator) (number : Int) (chain : Chain) : Lowered :=
  ⟨chain.sentenceProductions number, chain.sections transliterate Name.wordScope number, number + chain.count⟩

/-- A top-level chain is lowered under the same conditions as any other. -/
theorem sentence_eq_ok_iff [Limits] {transliterate : Transliterator} {number : Int} {chain : Chain} {lowered : Lowered} :
    chain.sentence transliterate number = .ok lowered ↔
      chain.IsKnown ∧ chain.Fits number ∧ chain.Pronounceable transliterate ∧
        lowered = chain.sentenceLowered transliterate number := by
  simp only [Chain.sentence, bind_eq_ok_iff]
  constructor
  · rintro ⟨numbers, numbered, rest⟩
    split at rest
    · obtain ⟨words, lowers, same⟩ := bind_eq_ok_iff.1 rest
      obtain ⟨known, fits, sound, rfl⟩ := lower_eq_ok_iff.1 lowers
      rw [numbers_eq_ok known] at numbered
      cases numbered
      cases same
      exact ⟨known, fits, sound, rfl⟩
    · cases rest
  · rintro ⟨known, fits, sound, rfl⟩
    refine ⟨_, numbers_eq_ok known number, ?_⟩
    have writable : ((chain.numbering number).map Prod.fst).all isWritable := by
      simpa using isWritable_of_fits fits
    rw [if_pos writable, bind_eq_ok_iff]
    exact ⟨_, lower_eq_ok_iff.2 ⟨known, fits, sound, rfl⟩, rfl⟩

end Chain

/-! ## Where the names of a chain lie -/

namespace Name

/-- The name lies below one of the items of a scope with numbers from `first` up to `last`. -/
def Numbered (scope : String) (first last : Int) (name : String) : Prop :=
  ∃ number, first ≤ number ∧ number < last ∧ Covers (child scope number) name

theorem Numbered.mono {scope name : String} {first last low high : Int} (numbered : Numbered scope first last name)
    (below : low ≤ first) (above : last ≤ high) : Numbered scope low high name := by
  obtain ⟨number, least, most, covers⟩ := numbered
  exact ⟨number, by omega, by omega, covers⟩

theorem Numbered.covers {scope name : String} {first last : Int} (numbered : Numbered scope first last name) :
    Covers scope name := by
  obtain ⟨number, _, _, covers⟩ := numbered
  exact (covers_child scope number).trans covers

theorem Numbered.ne_scope {scope name : String} {first last : Int} (numbered : Numbered scope first last name) :
    name ≠ scope := by
  rintro rfl
  obtain ⟨number, _, _, covers⟩ := numbered
  exact not_covers_scope _ _ covers

/-- Below one item lies nothing that lies below an item with a number in another range. -/
theorem Numbered.not_covers {scope name : String} {first last number : Int} (numbered : Numbered scope first last name)
    (outside : number < first ∨ last ≤ number) : ¬Covers (child scope number) name := by
  intro covers
  obtain ⟨other, least, most, below⟩ := numbered
  have same := number_eq_of_covers covers below
  omega

theorem Numbered.not_numbered {scope name : String} {first last low high : Int} (early : Numbered scope first last name)
    (apart : last ≤ low) : ¬Numbered scope low high name := by
  intro late
  obtain ⟨number, _, _, covers⟩ := early
  exact late.not_covers (.inl (by omega)) covers

end Name

namespace Repetition

theorem covers_bodyName (name : String) (repetition : Repetition) : Name.Covers name (repetition.bodyName name) := by
  cases repetition with
  | once => exact Name.covers_self name
  | _ => exact Name.covers_loop name

theorem bodyName_ne {repetition : Repetition} (repeated : repetition ≠ .once) (name : String) :
    repetition.bodyName name ≠ name := by
  have longer := Name.length_lt_loop name
  have different : Name.loop name ≠ name := fun same => by
    rw [same] at longer
    omega
  cases repetition <;> simp_all [bodyName]

/-- An item that goes on under its own name is not repeated. -/
theorem bodies_eq_nil {repetition : Repetition} {name : String} (same : repetition.bodyName name = name) :
    repetition.bodies name = [] := by
  by_cases once : repetition = .once
  · rw [once]
    rfl
  · exact absurd same (bodyName_ne once name)

/-- What lies below the children of an item is neither its name nor the name under which it goes on. -/
theorem ne_of_numbered_bodyName {repetition : Repetition} {name other : String} {first last : Int}
    (numbered : Name.Numbered (repetition.bodyName name) first last other) :
    other ≠ name ∧ other ≠ repetition.bodyName name := by
  refine ⟨?_, numbered.ne_scope⟩
  rintro rfl
  obtain ⟨number, _, _, covers⟩ := numbered
  have deeper := covers.length_le
  have longer := Name.length_lt_child (repetition.bodyName other) number
  have shorter := (repetition.covers_bodyName other).length_le
  omega

end Repetition

theorem Leaf.name_eq_of_mem_productions {content : Leaf} {name : String} {production : Production}
    (member : production ∈ content.productions name) : production.name = name := by
  cases content <;> simp_all [Leaf.productions]

theorem Leaf.name_eq_of_mem_sections {content : Leaf} {transliterate : Transliterator} {name : String}
    {block : Section} (member : block ∈ content.sections transliterate name) : block.name = name := by
  cases content <;> simp_all [Leaf.sections]

theorem Production.mem_map_mk {name : String} {bodies : List (List String)} {production : Production} :
    production ∈ bodies.map (Production.mk name) ↔ production.name = name ∧ production.symbols ∈ bodies := by
  obtain ⟨other, symbols⟩ := production
  constructor
  · intro member
    obtain ⟨body, member, same⟩ := List.mem_map.1 member
    cases same
    exact ⟨rfl, member⟩
  · rintro ⟨rfl, member⟩
    exact List.mem_map_of_mem member

namespace Chain

theorem mem_productions_leaf {content : Leaf} {repetition : Repetition} {closes : Bool} {next : Chain} {scope : String}
    {number : Int} {production : Production} :
    production ∈ (Chain.leaf content repetition closes next).productions scope number ↔
      (production.name = Name.child scope number ∧ production.symbols ∈ repetition.bodies (Name.child scope number)) ∨
        production ∈ content.productions (repetition.bodyName (Name.child scope number)) ∨
          production ∈ next.productions scope (number + 1) := by
  simp only [productions, List.mem_append, Production.mem_map_mk, or_assoc]

theorem mem_productions_group {inner : Chain} {repetition : Repetition} {closes : Bool} {next : Chain} {scope : String}
    {number : Int} {production : Production} :
    production ∈ (Chain.group inner repetition closes next).productions scope number ↔
      (production.name = Name.child scope number ∧ production.symbols ∈ repetition.bodies (Name.child scope number)) ∨
        (production.name = repetition.bodyName (Name.child scope number) ∧
          production.symbols ∈ inner.alternativeBodies (repetition.bodyName (Name.child scope number))) ∨
        production ∈ inner.productions (repetition.bodyName (Name.child scope number)) 0 ∨
          production ∈ next.productions scope (number + 1) := by
  simp only [productions, List.mem_append, Production.mem_map_mk, or_assoc]

/-- The productions of a chain are for names below its items. -/
theorem numbered_of_mem_productions {chain : Chain} {scope : String} {number : Int} {production : Production}
    (member : production ∈ chain.productions scope number) :
    Name.Numbered scope number (number + chain.count) production.name := by
  induction chain generalizing scope number with
  | nil => simp [productions] at member
  | broken index => simp [productions] at member
  | leaf content repetition closes next ih =>
    simp only [count]
    obtain ⟨named, _⟩ | member | member := mem_productions_leaf.1 member
    · rw [named]
      exact ⟨number, by omega, by omega, Name.covers_self _⟩
    · rw [Leaf.name_eq_of_mem_productions member]
      exact ⟨number, by omega, by omega, repetition.covers_bodyName _⟩
    · exact (ih member).mono (by omega) (by omega)
  | group inner repetition closes next ihInner ih =>
    simp only [count]
    obtain ⟨named, _⟩ | ⟨named, _⟩ | member | member := mem_productions_group.1 member
    · rw [named]
      exact ⟨number, by omega, by omega, Name.covers_self _⟩
    · rw [named]
      exact ⟨number, by omega, by omega, repetition.covers_bodyName _⟩
    · exact ⟨number, by omega, by omega, (repetition.covers_bodyName _).trans (ihInner member).covers⟩
    · exact (ih member).mono (by omega) (by omega)

/-- The productions of the items after one are not for names below it. -/
theorem not_covers_of_mem_productions {next : Chain} {scope : String} {number : Int} {production : Production}
    (member : production ∈ next.productions scope (number + 1)) :
    ¬Name.Covers (Name.child scope number) production.name :=
  (numbered_of_mem_productions member).not_covers (.inl (by omega))

/-- The sections of a chain are for names below its items. -/
theorem numbered_of_mem_sections {chain : Chain} {transliterate : Transliterator} {scope : String} {number : Int}
    {block : Section} (member : block ∈ chain.sections transliterate scope number) :
    Name.Numbered scope number (number + chain.count) block.name := by
  induction chain generalizing scope number with
  | nil => simp [sections] at member
  | broken index => simp [sections] at member
  | leaf content repetition closes next ih =>
    simp only [sections, List.mem_append] at member
    simp only [count]
    obtain member | member := member
    · rw [Leaf.name_eq_of_mem_sections member]
      exact ⟨number, by omega, by omega, repetition.covers_bodyName _⟩
    · exact (ih member).mono (by omega) (by omega)
  | group inner repetition closes next ihInner ih =>
    simp only [sections, List.mem_append] at member
    simp only [count]
    obtain member | member := member
    · exact ⟨number, by omega, by omega, (repetition.covers_bodyName _).trans (ihInner member).covers⟩
    · exact (ih member).mono (by omega) (by omega)

/-- A section of a chain holds the one literal that it is for. -/
theorem exists_literal_of_mem_sections {chain : Chain} {transliterate : Transliterator} {scope : String} {number : Int}
    {block : Section} (member : block ∈ chain.sections transliterate scope number) :
    ∃ text, block.entries = [⟨text, transliterate.phones text⟩] := by
  induction chain generalizing scope number with
  | nil => simp [sections] at member
  | broken index => simp [sections] at member
  | leaf content repetition closes next ih =>
    obtain member | member := List.mem_append.1 member
    · cases content with
      | literal text => exact ⟨text, by rw [List.mem_singleton.1 member]⟩
      | _ => exact absurd member List.not_mem_nil
    · exact ih member
  | group inner repetition closes next ihInner ih =>
    obtain member | member := List.mem_append.1 member
    · exact ihInner member
    · exact ih member

end Chain

/-- When a table is lowered, and to what. -/
theorem NodeTable.lower_eq_ok_iff [Limits] {transliterate : Transliterator} {number : Int} {table : NodeTable}
    {lowered : Lowered} : table.lower transliterate number = .ok lowered ↔
      table.chain.IsKnown ∧ table.chain.Fits number ∧ table.chain.Pronounceable transliterate ∧
        lowered = table.chain.sentenceLowered transliterate number := by
  rw [lower_eq_sentence, Chain.sentence_eq_ok_iff]

end Utterance
