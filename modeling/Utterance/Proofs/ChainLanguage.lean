import Utterance.Proofs.Derivation
import Utterance.Proofs.LoweredChain

/-!
# The language of a chain

Every item of a chain stands for a language over leaves: a leaf for itself, a group for the union of the products of
its alternatives, and a repetition for powers of what is repeated. `yield_items` shows that the name of an item yields
that language in every grammar that has the productions of the chain and no others for its names.
-/

namespace Utterance
set_option autoImplicit false
open scoped Computability

namespace Repetition

/-- What is said when something from a language is repeated. -/
def language (repetition : Repetition) (once : Language Leaf) : Language Leaf :=
  match repetition with
  | .once => once
  | .range least most => ⨆ count : Int, ⨆ _ : least ≤ count ∧ count ≤ most, once ^ count.toNat
  | .zeroOrMore => once∗
  | .oneOrMore => once * once∗
  | .other _ _ _ => 0

/-- A range does not end below its start. -/
def IsOrdered : Repetition → Prop
  | .range least most => least ≤ most
  | _ => True

theorem bodies_ne_nil {repetition : Repetition} (meaning : repetition.IsKnown) (ordered : repetition.IsOrdered)
    (repeated : repetition ≠ .once) (name : String) : repetition.bodies name ≠ [] := by
  cases repetition with
  | once => exact absurd rfl repeated
  | range least most =>
    have first : countedBody name least ∈ (Repetition.range least most).bodies name := by
      have : least ≤ most := ordered
      exact mem_countedBodies.2 ⟨least, by omega, by omega, rfl⟩
    exact List.ne_nil_of_mem first
  | zeroOrMore => simp [bodies]
  | oneOrMore => simp [bodies]
  | other kind least most => exact meaning.elim

theorem mem_language_range {least most : Int} {once : Language Leaf} {words : List Leaf} :
    words ∈ (Repetition.range least most).language once ↔
      ∃ count : Int, least ≤ count ∧ count ≤ most ∧ words ∈ once ^ count.toNat := by
  simp only [language, Language.mem_iSup, exists_prop, and_assoc]

end Repetition

namespace Chain

/-- The language of every item, each with whether it ends its alternative. -/
def languages : Chain → List (Language Leaf × Bool)
  | .nil => []
  | .broken _ => []
  | .leaf content repetition closes next => (repetition.language {[content]}, closes) :: next.languages
  | .group inner repetition closes next =>
    (repetition.language ((splitAfter inner.languages).map List.prod).sum, closes) :: next.languages

/-- No range ends below its start, and no group is empty. -/
def IsProper : Chain → Prop
  | .nil => True
  | .broken _ => True
  | .leaf _ repetition _ next => repetition.IsOrdered ∧ next.IsProper
  | .group inner repetition _ next => (inner.count ≠ 0 ∧ inner.IsProper) ∧ repetition.IsOrdered ∧ next.IsProper

theorem numbering_ne_nil {chain : Chain} (nonempty : chain.count ≠ 0) (number : Int) : chain.numbering number ≠ [] := by
  cases chain <;> simp_all [count, numbering]

theorem alternativeBodies_ne_nil {inner : Chain} (nonempty : inner.count ≠ 0) (name : String) :
    inner.alternativeBodies name ≠ [] := by
  simpa [alternativeBodies] using splitAfter_ne_nil (numbering_ne_nil nonempty 0)

end Chain

section Repeated

variable {grammar : Grammar} {terminals : List String} {reading : String → List Leaf}

theorem yield_noise (known : Name.noise ∈ terminals) (silent : reading Name.noise = []) :
    grammar.yield terminals reading [Name.noise] = 1 := by
  rw [Grammar.yield_terminal known, silent]
  rfl

theorem yield_replicate (name : String) (times : Nat) :
    grammar.yield terminals reading (List.replicate times name) =
      grammar.yield terminals reading [name] ^ times := by
  induction times with
  | zero => simp
  | succ times ih => rw [List.replicate_succ, Grammar.yield_cons, ih, pow_succ']

theorem yield_countedBody (known : Name.noise ∈ terminals) (silent : reading Name.noise = []) (name : String)
    (count : Int) :
    grammar.yield terminals reading (Repetition.countedBody name count) =
      grammar.yield terminals reading [Name.loop name] ^ count.toNat := by
  unfold Repetition.countedBody
  split
  · rename_i zero
    rw [yield_noise known silent, zero, Int.toNat_zero, pow_zero]
  · exact yield_replicate _ _

/-- The productions of a repetition say what it repeats as often as it allows. -/
theorem yield_repetition {name : String} {repetition : Repetition} (meaning : repetition.IsKnown)
    (known : Name.noise ∈ terminals) (silent : reading Name.noise = [])
    (unknown : repetition ≠ .once → name ∉ terminals)
    (only : repetition ≠ .once → ∀ body, ⟨name, body⟩ ∈ grammar ↔ body ∈ repetition.bodies name) :
    grammar.yield terminals reading [name] =
      repetition.language (grammar.yield terminals reading [repetition.bodyName name]) := by
  cases repetition with
  | once => rfl
  | range least most =>
    ext words
    rw [Grammar.mem_yield_name (unknown (by simp)), Repetition.mem_language_range]
    constructor
    · rintro ⟨body, member, said⟩
      obtain ⟨count, low, high, rfl⟩ := Repetition.mem_countedBodies.1 ((only (by simp) body).1 member)
      rw [yield_countedBody known silent] at said
      exact ⟨count, low, by omega, said⟩
    · rintro ⟨count, low, high, said⟩
      replace said := (yield_countedBody known silent name count).symm ▸ said
      have member : Repetition.countedBody name count ∈ (Repetition.range least most).bodies name :=
        Repetition.mem_countedBodies.2 ⟨count, low, by omega, rfl⟩
      exact ⟨_, (only (by simp) _).2 member, said⟩
  | zeroOrMore =>
    have listed : ∀ body, ⟨name, body⟩ ∈ grammar ↔
        body ∈ [[Name.noise], [Name.loop name]] ∨ body = name :: [Name.loop name] := by
      intro body
      rw [only (by simp)]
      simp [Repetition.bodies, or_assoc]
    set once := grammar.yield terminals reading [Name.loop name]
    calc grammar.yield terminals reading [name] = (1 + once) * once∗ := by
          rw [Grammar.yield_left_recursive (unknown (by simp)) listed]
          simp [yield_noise known silent, once]
      _ = once∗ + once * once∗ := by rw [add_mul, one_mul]
      _ = once∗ := add_eq_left_iff_le.2 mul_kstar_le_kstar
  | oneOrMore =>
    have listed : ∀ body, ⟨name, body⟩ ∈ grammar ↔ body ∈ [[Name.loop name]] ∨ body = name :: [Name.loop name] := by
      intro body
      rw [only (by simp)]
      simp [Repetition.bodies]
    rw [Grammar.yield_left_recursive (unknown (by simp)) listed]
    simp [Repetition.language, Repetition.bodyName]
  | other kind least most => exact meaning.elim

end Repeated

namespace Chain

/-- A grammar has exactly the productions of a chain for the names below its items, and the leaves of the chain are
terminals that are read as themselves. -/
structure Hosted (transliterate : Transliterator) (chain : Chain) (scope : String) (number : Int) (grammar : Grammar)
    (terminals : List String) (reading : String → List Leaf) : Prop where
  known : chain.IsKnown
  proper : chain.IsProper
  same : ∀ production : Production, Name.Numbered scope number (number + chain.count) production.name →
    (production ∈ grammar ↔ production ∈ chain.productions scope number)
  unread : ∀ production ∈ chain.productions scope number, production.name ∉ terminals
  literals : ∀ block ∈ chain.sections transliterate scope number,
    block.name ∈ terminals ∧ ∀ entry ∈ block.entries, reading block.name = [.literal entry.word]
  symbols : ∀ name ∈ chain.symbols, name ∈ terminals ∧ reading name = [.symbol name]
  noise : Name.noise ∈ terminals
  silent : reading Name.noise = []

namespace Hosted

variable {transliterate : Transliterator} {content : Leaf} {inner next : Chain} {repetition : Repetition}
  {closes : Bool} {scope : String} {number : Int} {grammar : Grammar} {terminals : List String}
  {reading : String → List Leaf}

/-- The rest of a chain, after a leaf. -/
theorem afterLeaf (hosted : (Chain.leaf content repetition closes next).Hosted transliterate scope number grammar
    terminals reading) : next.Hosted transliterate scope (number + 1) grammar terminals reading where
  known := hosted.known.2.2
  proper := hosted.proper.2
  same := by
    intro production numbered
    rw [hosted.same production (numbered.mono (by omega) (by simp only [count]; omega)), mem_productions_leaf]
    refine ⟨?_, fun member => .inr (.inr member)⟩
    have apart : ¬Name.Covers (Name.child scope number) production.name := numbered.not_covers (.inl (by omega))
    rintro (⟨named, _⟩ | member | member)
    · exact absurd (named ▸ Name.covers_self _) apart
    · exact absurd (Leaf.name_eq_of_mem_productions member ▸ repetition.covers_bodyName _) apart
    · exact member
  unread := fun production member => hosted.unread production (mem_productions_leaf.2 (.inr (.inr member)))
  literals := fun block member => hosted.literals block (List.mem_append_right _ member)
  symbols := by
    intro name member
    apply hosted.symbols name
    simp only [Chain.symbols, leaves, List.filterMap_cons] at member ⊢
    split <;> simp [member]
  noise := hosted.noise
  silent := hosted.silent

/-- The rest of a chain, after a group. -/
theorem afterGroup (hosted : (Chain.group inner repetition closes next).Hosted transliterate scope number grammar
    terminals reading) : next.Hosted transliterate scope (number + 1) grammar terminals reading where
  known := hosted.known.2.2
  proper := hosted.proper.2.2
  same := by
    intro production numbered
    rw [hosted.same production (numbered.mono (by omega) (by simp only [count]; omega)), mem_productions_group]
    refine ⟨?_, fun member => .inr (.inr (.inr member))⟩
    have apart : ¬Name.Covers (Name.child scope number) production.name := numbered.not_covers (.inl (by omega))
    rintro (⟨named, _⟩ | ⟨named, _⟩ | member | member)
    · exact absurd (named ▸ Name.covers_self _) apart
    · exact absurd (named ▸ repetition.covers_bodyName _) apart
    · exact absurd ((repetition.covers_bodyName _).trans (numbered_of_mem_productions member).covers) apart
    · exact member
  unread := fun production member => hosted.unread production (mem_productions_group.2 (.inr (.inr (.inr member))))
  literals := fun block member => hosted.literals block (List.mem_append_right _ member)
  symbols := by
    intro name member
    apply hosted.symbols name
    simp only [Chain.symbols, leaves, List.filterMap_append] at member ⊢
    exact List.mem_append_right _ member
  noise := hosted.noise
  silent := hosted.silent

/-- The children of a group, in the scope of the name under which it goes on. -/
theorem children (hosted : (Chain.group inner repetition closes next).Hosted transliterate scope number grammar
    terminals reading) :
    inner.Hosted transliterate (repetition.bodyName (Name.child scope number)) 0 grammar terminals reading where
  known := hosted.known.1
  proper := hosted.proper.1.2
  same := by
    intro production numbered
    have below : Name.Covers (Name.child scope number) production.name :=
      (repetition.covers_bodyName _).trans numbered.covers
    rw [hosted.same production ⟨number, by omega, by simp only [count]; omega, below⟩, mem_productions_group]
    refine ⟨?_, fun member => .inr (.inr (.inl member))⟩
    obtain ⟨notItem, notBody⟩ := Repetition.ne_of_numbered_bodyName numbered
    rintro (⟨named, _⟩ | ⟨named, _⟩ | member | member)
    · exact absurd named notItem
    · exact absurd named notBody
    · exact member
    · exact absurd below (not_covers_of_mem_productions member)
  unread := fun production member => hosted.unread production (mem_productions_group.2 (.inr (.inr (.inl member))))
  literals := fun block member => hosted.literals block (List.mem_append_left _ member)
  symbols := by
    intro name member
    apply hosted.symbols name
    simp only [Chain.symbols, leaves, List.filterMap_append] at member ⊢
    exact List.mem_append_left _ member
  noise := hosted.noise
  silent := hosted.silent

/-- The productions for the name under which a leaf goes on are those of the leaf. -/
theorem mem_body_leaf (hosted : (Chain.leaf content repetition closes next).Hosted transliterate scope number grammar
    terminals reading) (body : List String) :
    ⟨repetition.bodyName (Name.child scope number), body⟩ ∈ grammar ↔
      (⟨repetition.bodyName (Name.child scope number), body⟩ : Production) ∈
        content.productions (repetition.bodyName (Name.child scope number)) := by
  have below := repetition.covers_bodyName (Name.child scope number)
  rw [hosted.same _ ⟨number, by omega, by simp only [count]; omega, below⟩, mem_productions_leaf]
  refine ⟨?_, fun member => .inr (.inl member)⟩
  rintro (⟨named, listed⟩ | member | member)
  · rw [Repetition.bodies_eq_nil named] at listed
    exact absurd listed List.not_mem_nil
  · exact member
  · exact absurd below (not_covers_of_mem_productions member)

/-- The productions for the name under which a group goes on are its alternatives. -/
theorem mem_body_group (hosted : (Chain.group inner repetition closes next).Hosted transliterate scope number grammar
    terminals reading) (body : List String) :
    ⟨repetition.bodyName (Name.child scope number), body⟩ ∈ grammar ↔
      body ∈ inner.alternativeBodies (repetition.bodyName (Name.child scope number)) := by
  have below := repetition.covers_bodyName (Name.child scope number)
  rw [hosted.same _ ⟨number, by omega, by simp only [count]; omega, below⟩, mem_productions_group]
  refine ⟨?_, fun member => .inr (.inl ⟨rfl, member⟩)⟩
  rintro (⟨named, listed⟩ | ⟨_, member⟩ | member | member)
  · rw [Repetition.bodies_eq_nil named] at listed
    exact absurd listed List.not_mem_nil
  · exact member
  · exact absurd rfl (Repetition.ne_of_numbered_bodyName (numbered_of_mem_productions member)).2
  · exact absurd below (not_covers_of_mem_productions member)

/-- The productions for the name of a repeated leaf are those of the repetition. -/
theorem mem_repeated_leaf (hosted : (Chain.leaf content repetition closes next).Hosted transliterate scope number
    grammar terminals reading) (repeated : repetition ≠ .once) (body : List String) :
    ⟨Name.child scope number, body⟩ ∈ grammar ↔ body ∈ repetition.bodies (Name.child scope number) := by
  have below := Name.covers_self (Name.child scope number)
  rw [hosted.same _ ⟨number, by omega, by simp only [count]; omega, below⟩, mem_productions_leaf]
  refine ⟨?_, fun member => .inl ⟨rfl, member⟩⟩
  rintro (⟨_, listed⟩ | member | member)
  · exact listed
  · exact absurd (Leaf.name_eq_of_mem_productions member).symm (Repetition.bodyName_ne repeated _)
  · exact absurd below (not_covers_of_mem_productions member)

/-- The productions for the name of a repeated group are those of the repetition. -/
theorem mem_repeated_group (hosted : (Chain.group inner repetition closes next).Hosted transliterate scope number
    grammar terminals reading) (repeated : repetition ≠ .once) (body : List String) :
    ⟨Name.child scope number, body⟩ ∈ grammar ↔ body ∈ repetition.bodies (Name.child scope number) := by
  have below := Name.covers_self (Name.child scope number)
  rw [hosted.same _ ⟨number, by omega, by simp only [count]; omega, below⟩, mem_productions_group]
  refine ⟨?_, fun member => .inl ⟨rfl, member⟩⟩
  rintro (⟨_, listed⟩ | ⟨named, _⟩ | member | member)
  · exact listed
  · exact absurd named.symm (Repetition.bodyName_ne repeated _)
  · exact absurd rfl (Repetition.ne_of_numbered_bodyName (numbered_of_mem_productions member)).1
  · exact absurd below (not_covers_of_mem_productions member)

theorem yield_body_leaf (hosted : (Chain.leaf content repetition closes next).Hosted transliterate scope number grammar
    terminals reading) :
    grammar.yield terminals reading [repetition.bodyName (Name.child scope number)] = {[content]} := by
  set body := repetition.bodyName (Name.child scope number)
  have lookup := hosted.mem_body_leaf
  cases content with
  | literal text =>
    obtain ⟨known, read⟩ := hosted.literals ⟨body, [⟨text, transliterate.phones text⟩]⟩
      (List.mem_append_left _ (List.mem_singleton_self _))
    rw [Grammar.yield_terminal known, read _ (List.mem_singleton_self _)]
  | symbol reference =>
    have listed : ∀ other, ⟨body, other⟩ ∈ grammar ↔ other ∈ [[reference]] := by
      intro other
      simp [lookup, Leaf.productions, body]
    have unread : body ∉ terminals :=
      hosted.unread ⟨body, [reference]⟩ (mem_productions_leaf.2 (.inr (.inl (List.mem_singleton_self _))))
    obtain ⟨known, read⟩ := hosted.symbols reference (List.mem_cons_self ..)
    rw [Grammar.yield_name unread listed]
    simp [Grammar.yield_terminal known, read]
  | other kind => exact hosted.known.1.elim

theorem yield_body_group (hosted : (Chain.group inner repetition closes next).Hosted transliterate scope number grammar
    terminals reading)
    (children : (inner.numbering 0).map (fun entry => (grammar.yield terminals reading
      [Name.child (repetition.bodyName (Name.child scope number)) entry.1], entry.2)) = inner.languages) :
    grammar.yield terminals reading [repetition.bodyName (Name.child scope number)] =
      ((splitAfter inner.languages).map List.prod).sum := by
  set body := repetition.bodyName (Name.child scope number)
  have unread : body ∉ terminals := by
    obtain ⟨piece, listed⟩ := List.exists_mem_of_ne_nil _ (alternativeBodies_ne_nil hosted.proper.1.1 body)
    exact hosted.unread ⟨body, piece⟩ (mem_productions_group.2 (.inr (.inl ⟨rfl, listed⟩)))
  rw [Grammar.yield_name unread hosted.mem_body_group, ← children,
    splitAfter_map fun number => grammar.yield terminals reading [Name.child body number], alternativeBodies,
    List.map_map, List.map_map]
  congr 1
  apply List.map_congr_left
  intro piece _
  simp only [Function.comp_def, Grammar.yield_eq_prod (piece.map _), List.map_map, body]

end Hosted

/-- Every item of a chain yields its language. -/
theorem yield_items {transliterate : Transliterator} {chain : Chain} {scope : String} {number : Int} {grammar : Grammar}
    {terminals : List String} {reading : String → List Leaf}
    (hosted : chain.Hosted transliterate scope number grammar terminals reading) :
    (chain.numbering number).map (fun entry => (grammar.yield terminals reading [Name.child scope entry.1], entry.2)) =
      chain.languages := by
  induction chain generalizing scope number with
  | nil => rfl
  | broken index => exact hosted.known.elim
  | leaf content repetition closes next ih =>
    have item := yield_repetition hosted.known.2.1 hosted.noise hosted.silent ?_ hosted.mem_repeated_leaf
    · rw [hosted.yield_body_leaf] at item
      simp only [numbering, languages, List.map_cons, ih hosted.afterLeaf, item]
    · intro repeated
      obtain ⟨body, listed⟩ := List.exists_mem_of_ne_nil _
        (Repetition.bodies_ne_nil hosted.known.2.1 hosted.proper.1 repeated (Name.child scope number))
      exact hosted.unread ⟨_, body⟩ (mem_productions_leaf.2 (.inl ⟨rfl, listed⟩))
  | group inner repetition closes next ihInner ih =>
    have item := yield_repetition hosted.known.2.1 hosted.noise hosted.silent ?_ hosted.mem_repeated_group
    · rw [hosted.yield_body_group (ihInner hosted.children)] at item
      simp only [numbering, languages, List.map_cons, ih hosted.afterGroup, item]
    · intro repeated
      obtain ⟨body, listed⟩ := List.exists_mem_of_ne_nil _
        (Repetition.bodies_ne_nil hosted.known.2.1 hosted.proper.2.1 repeated (Name.child scope number))
      exact hosted.unread ⟨_, body⟩ (mem_productions_group.2 (.inl ⟨rfl, listed⟩))

end Chain

end Utterance
