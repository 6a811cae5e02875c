import Mathlib.Logic.Relation
import Utterance.Proofs.Meaning

/-!
# What the start of sentences reaches

The grammar of a pattern is closed: what stands in a production is a fixed terminal, a symbol of the pattern, or has
productions or a section of its own. And it has no dead parts but those that are said no times: an identifier is reached
from the start of sentences exactly if it stands under no range that ends at zero (`isClosed_and_reaches_iff`).

One direction follows the chain down. For the other one, the names that stand under no such range are closed under the
productions, and an identifier has only one name, so that no other identifier is among them.
-/

namespace Utterance
set_option autoImplicit false
open Pattern

namespace Grammar

/-- The symbol stands in a production for the name. -/
def Leads (grammar : Grammar) (name symbol : String) : Prop :=
  ∃ production ∈ grammar, production.name = name ∧ symbol ∈ production.symbols

/-- The symbol is reached from the name through the productions. -/
def Reaches (grammar : Grammar) : String → String → Prop :=
  Relation.ReflTransGen grammar.Leads

variable {grammar : Grammar} {first name : String}

theorem Reaches.through (reached : grammar.Reaches first name) {production : Production} (member : production ∈ grammar)
    (named : production.name = name) {symbol : String} (inside : symbol ∈ production.symbols) :
    grammar.Reaches first symbol :=
  Relation.ReflTransGen.tail reached ⟨production, member, named, inside⟩

/-- What every production keeps holds of all that is reached. -/
theorem Reaches.of_closed {property : String → Prop} (reached : grammar.Reaches first name) (start : property first)
    (closed : ∀ production ∈ grammar, property production.name → ∀ symbol ∈ production.symbols, property symbol) :
    property name := by
  induction reached with
  | refl => exact start
  | tail _ leads ih =>
    obtain ⟨production, member, rfl, inside⟩ := leads
    exact closed production member ih _ inside

end Grammar

namespace Repetition

/-- The repetition is a range that ends at zero. -/
def IsNever : Repetition → Prop
  | .range _ most => most = 0
  | _ => False

instance : DecidablePred IsNever
  | .range _ most => inferInstanceAs (Decidable (most = 0))
  | .once => .isFalse id
  | .zeroOrMore => .isFalse id
  | .oneOrMore => .isFalse id
  | .other _ _ _ => .isFalse id

/-- The repetition can be written: a range goes from a natural number to one that is not below it. -/
def IsSpelled : Repetition → Prop
  | .range least most => 0 ≤ least ∧ least ≤ most
  | .other _ _ _ => False
  | _ => True

/-- What is repeated stands in one of the productions, unless it is said no times. -/
theorem exists_body_of_not_isNever {repetition : Repetition} (spelled : repetition.IsSpelled)
    (repeated : repetition ≠ .once) (live : ¬repetition.IsNever) (name : String) :
    ∃ body ∈ repetition.bodies name, repetition.bodyName name ∈ body := by
  cases repetition with
  | once => exact absurd rfl repeated
  | range least most =>
    obtain ⟨natural, ordered⟩ := spelled
    have positive : most ≠ 0 := live
    refine ⟨countedBody name most, mem_countedBodies.2 ⟨most, ordered, by omega, rfl⟩, ?_⟩
    rw [countedBody, if_neg positive]
    exact List.mem_replicate.2 ⟨by omega, rfl⟩
  | zeroOrMore => exact ⟨[Name.loop name], by simp [bodies], List.mem_singleton_self _⟩
  | oneOrMore => exact ⟨[Name.loop name], by simp [bodies], List.mem_singleton_self _⟩
  | other kind least most => exact spelled.elim

/-- What is said no times stands in no production of its repetition. -/
theorem not_isNever_of_mem_bodies {repetition : Repetition} {name : String} {body : List String}
    (listed : body ∈ repetition.bodies name) (inside : repetition.bodyName name ∈ body)
    (notNoise : repetition.bodyName name ≠ Name.noise) : ¬repetition.IsNever := by
  cases repetition with
  | range least most =>
    intro never
    have ends : most = 0 := never
    obtain ⟨count, low, high, rfl⟩ := mem_countedBodies.1 listed
    unfold countedBody at inside
    split at inside
    · exact notNoise (List.mem_singleton.1 inside)
    · have some := (List.mem_replicate.1 inside).1
      omega
  | _ => exact id

end Repetition

/-! ## The repetitions of an expression -/

namespace Pattern

theorem Repeat.isSpelled_repetition {repeated : Option Repeat} (ordered : ∀ r ∈ repeated, r.IsOrdered) :
    (repetition repeated).IsSpelled := by
  obtain _ | r := repeated
  · trivial
  · have single := ordered r rfl
    cases r with
    | range least most =>
      have : least ≤ most := single
      exact ⟨by omega, by omega⟩
    | exactly count => exact ⟨by omega, Int.le_refl _⟩
    | optional => exact ⟨Int.le_refl _, by decide⟩
    | _ => trivial

mutual

theorem Item.isSpelled_chain : (item : Item Atom Unit Repeat) → {closes : Bool} → {next : Chain} →
    (∀ r ∈ item.repeats, r.IsOrdered) → (∀ r ∈ next.repetitions, r.IsSpelled) →
    ∀ r ∈ (item.chain closes next).repetitions, r.IsSpelled
  | .atom _ repeated, _, _, ordered, after => by
    rw [Item.chain, Chain.repetitions, List.forall_mem_cons]
    exact ⟨Repeat.isSpelled_repetition fun r member => ordered r (by simpa [Item.repeats] using member), after⟩
  | .group _ inner repeated, _, _, ordered, after => by
    rw [Item.repeats, List.forall_mem_append] at ordered
    rw [Item.chain, Chain.repetitions, List.forall_mem_cons, List.forall_mem_append]
    exact ⟨Repeat.isSpelled_repetition fun r member => ordered.2 r (by simpa using member),
      Choice.isSpelled_chain inner ordered.1, after⟩

theorem Phrase.isSpelled_chain : (phrase : Phrase Atom Unit Repeat) → {closes : Bool} → {next : Chain} →
    (∀ r ∈ phrase.repeats, r.IsOrdered) → (∀ r ∈ next.repetitions, r.IsSpelled) →
    ∀ r ∈ (phrase.chain closes next).repetitions, r.IsSpelled
  | .last item, _, _, ordered, after => Item.isSpelled_chain item ordered after
  | .cons item rest, _, _, ordered, after => by
    rw [Phrase.repeats, List.forall_mem_append] at ordered
    exact Item.isSpelled_chain item ordered.1 (Phrase.isSpelled_chain rest ordered.2 after)

theorem Choice.isSpelled_chain : (choice : Choice Atom Unit Repeat) → (∀ r ∈ choice.repeats, r.IsOrdered) →
    ∀ r ∈ choice.chain.repetitions, r.IsSpelled
  | .last phrase, ordered => Phrase.isSpelled_chain phrase ordered fun _ member => absurd member List.not_mem_nil
  | .cons phrase rest, ordered => by
    rw [Choice.repeats, List.forall_mem_append] at ordered
    exact Phrase.isSpelled_chain phrase ordered.1 (Choice.isSpelled_chain rest ordered.2)

end

/-- The repetitions of a table that was parsed can be written. -/
theorem isSpelled_of_parse [Limits] {source : Source} {table : NodeTable} (accepted : parse source = .ok table) :
    ∀ repetition ∈ table.chain.repetitions, repetition.IsSpelled := by
  obtain ⟨expression, spelled, denotes⟩ := exists_spelledBy_of_parse accepted
  rw [denotes]
  refine Phrase.isSpelled_chain expression (isOrdered_of_spelledBy spelled) ?_
  exact fun _ member => absurd member List.not_mem_nil

end Pattern

/-! ## What identifiers stand under -/

/-- An identifier of an item with the repetitions it stands under: those of the groups around the item and, if it is the
name under which the item goes on, also that of the item itself. -/
structure Standing extends Identifier where
  under : List Repetition
  deriving DecidableEq

/-- The identifier stands under no range that ends at zero. -/
def Standing.IsLive (standing : Standing) : Prop :=
  ∀ repetition ∈ standing.under, ¬repetition.IsNever

/-- The identifiers of one item. -/
def Repetition.standings (around : List Repetition) (path : List Nat) (name : String) (heads : Bool)
    (repetition : Repetition) : List Standing :=
  (if repetition = .once then [] else [⟨⟨path, .base, name, false⟩, around⟩]) ++
    [⟨⟨path, repetition.bodyRole, repetition.bodyName name, heads⟩, repetition :: around⟩]

/-- The identifiers of the items of a chain, which is inside of groups with the given repetitions. -/
def Chain.standings : (around : List Repetition) → (path : List Nat) → (position : Nat) → (scope : String) →
    (number : Int) → Chain → List Standing
  | _, _, _, _, _, .nil => []
  | _, _, _, _, _, .broken _ => []
  | around, path, position, scope, number, .leaf content repetition _ next =>
    repetition.standings around (path ++ [position]) (Name.child scope number) content.isLiteral ++
      next.standings around path (position + 1) scope (number + 1)
  | around, path, position, scope, number, .group inner repetition _ next =>
    repetition.standings around (path ++ [position]) (Name.child scope number) false ++
      inner.standings (repetition :: around) (path ++ [position]) 0 (repetition.bodyName (Name.child scope number)) 0 ++
      next.standings around path (position + 1) scope (number + 1)

/-- The identifiers of the words of a sentence. -/
def Chain.wordStandings (number : Int) (chain : Chain) : List Standing :=
  chain.standings [] [] 0 Name.wordScope number

namespace Repetition

variable {around : List Repetition} {path : List Nat} {name : String} {heads : Bool} {repetition : Repetition}

theorem mem_standings {standing : Standing} : standing ∈ repetition.standings around path name heads ↔
    (repetition ≠ .once ∧ standing = ⟨⟨path, .base, name, false⟩, around⟩) ∨
      standing = ⟨⟨path, repetition.bodyRole, repetition.bodyName name, heads⟩, repetition :: around⟩ := by
  by_cases once : repetition = .once <;> simp [standings, once]

theorem map_toIdentifier_standings :
    (repetition.standings around path name heads).map Standing.toIdentifier =
      repetition.identifiers path name heads := by
  by_cases once : repetition = .once <;> simp [standings, identifiers, once]

/-- The name of an item stands under the groups around it only. -/
theorem exists_standing_of_name (outer : ∀ r ∈ around, ¬r.IsNever) :
    ∃ standing ∈ repetition.standings around path name heads, standing.name = name ∧ standing.IsLive := by
  by_cases once : repetition = .once
  · subst once
    refine ⟨_, mem_standings.2 (.inr rfl), rfl, ?_⟩
    exact List.forall_mem_cons.2 ⟨id, outer⟩
  · exact ⟨_, mem_standings.2 (.inl ⟨once, rfl⟩), rfl, outer⟩

/-- What stands in a production of a repetition stands under no more than the item, if what is repeated is said. -/
theorem exists_standing_of_mem_bodies (outer : ∀ r ∈ around, ¬r.IsNever) {body : List String} {symbol : String}
    (listed : body ∈ repetition.bodies name) (inside : symbol ∈ body) :
    symbol = Name.noise ∨
      ∃ standing ∈ repetition.standings around path name heads, standing.name = symbol ∧ standing.IsLive := by
  by_cases noise : symbol = Name.noise
  · exact .inl noise
  · refine .inr ?_
    obtain same | rfl | rfl := eq_of_mem_bodies listed inside
    · exact absurd same noise
    · exact exists_standing_of_name outer
    · have live := not_isNever_of_mem_bodies listed inside noise
      exact ⟨_, mem_standings.2 (.inr rfl), rfl, List.forall_mem_cons.2 ⟨live, outer⟩⟩

end Repetition

namespace Chain

variable {around : List Repetition} {path : List Nat} {position : Nat} {scope : String} {number : Int} {chain : Chain}

theorem mem_standings_leaf {content : Leaf} {repetition : Repetition} {closes : Bool} {next : Chain}
    {standing : Standing} :
    standing ∈ (Chain.leaf content repetition closes next).standings around path position scope number ↔
      standing ∈ repetition.standings around (path ++ [position]) (Name.child scope number) content.isLiteral ∨
        standing ∈ next.standings around path (position + 1) scope (number + 1) := by
  rw [standings, List.mem_append]

theorem mem_standings_group {inner : Chain} {repetition : Repetition} {closes : Bool} {next : Chain}
    {standing : Standing} :
    standing ∈ (Chain.group inner repetition closes next).standings around path position scope number ↔
      standing ∈ repetition.standings around (path ++ [position]) (Name.child scope number) false ∨
        standing ∈ inner.standings (repetition :: around) (path ++ [position]) 0
          (repetition.bodyName (Name.child scope number)) 0 ∨
        standing ∈ next.standings around path (position + 1) scope (number + 1) := by
  rw [standings, List.mem_append, List.mem_append, or_assoc]

/-- The standings are those of all identifiers, in order. -/
theorem map_toIdentifier_standings :
    (chain.standings around path position scope number).map Standing.toIdentifier =
      chain.identifiers path position scope number := by
  induction chain generalizing around path position scope number with
  | nil => rfl
  | broken index => rfl
  | leaf content repetition closes next ih =>
    rw [standings, identifiers_leaf, List.map_append, Repetition.map_toIdentifier_standings, ih]
  | group inner repetition closes next ihInner ih =>
    rw [standings, identifiers_group, List.map_append, List.map_append, Repetition.map_toIdentifier_standings, ihInner, ih]

theorem toIdentifier_mem_identifiers {standing : Standing}
    (member : standing ∈ chain.standings around path position scope number) :
    standing.toIdentifier ∈ chain.identifiers path position scope number := by
  rw [← map_toIdentifier_standings]
  exact List.mem_map_of_mem member

/-- A name has one standing. -/
theorem standing_eq_of_name_eq {one other : Standing}
    (member : one ∈ chain.standings around path position scope number)
    (found : other ∈ chain.standings around path position scope number) (same : one.name = other.name) : one = other := by
  have distinct : ((chain.standings around path position scope number).map fun standing => standing.name).Nodup := by
    have names := @nodup_identifiers path position scope number chain
    rw [← @map_toIdentifier_standings around, List.map_map] at names
    exact names
  exact List.inj_on_of_nodup_map distinct member found same

/-- All items of a chain stand under the groups around it. -/
theorem around_subset_under {standing : Standing}
    (member : standing ∈ chain.standings around path position scope number) : around ⊆ standing.under := by
  induction chain generalizing around path position scope number with
  | nil => exact absurd member List.not_mem_nil
  | broken index => exact absurd member List.not_mem_nil
  | leaf content repetition closes next ih =>
    simp only [mem_standings_leaf, Repetition.mem_standings] at member
    obtain (⟨_, rfl⟩ | rfl) | member := member
    · exact List.Subset.refl _
    · exact List.subset_cons_self ..
    · exact ih member
  | group inner repetition closes next ihInner ih =>
    simp only [mem_standings_group, Repetition.mem_standings] at member
    obtain (⟨_, rfl⟩ | rfl) | member | member := member
    · exact List.Subset.refl _
    · exact List.subset_cons_self ..
    · exact List.Subset.trans (List.subset_cons_self ..) (ihInner member)
    · exact ih member

/-- The number of an item makes the name of an identifier that stands under the groups around the chain only. -/
theorem exists_standing_of_mem_numbering (outer : ∀ r ∈ around, ¬r.IsNever) {entry : Int × Bool}
    (member : entry ∈ chain.numbering number) :
    ∃ standing ∈ chain.standings around path position scope number,
      standing.name = Name.child scope entry.1 ∧ standing.IsLive := by
  induction chain generalizing path position number with
  | nil => exact absurd member List.not_mem_nil
  | broken index => exact absurd member List.not_mem_nil
  | leaf content repetition closes next ih =>
    simp only [mem_standings_leaf]
    obtain rfl | member := List.mem_cons.1 member
    · obtain ⟨standing, found, facts⟩ := Repetition.exists_standing_of_name outer
      exact ⟨standing, .inl found, facts⟩
    · obtain ⟨standing, found, facts⟩ := ih member
      exact ⟨standing, .inr found, facts⟩
  | group inner repetition closes next _ ih =>
    simp only [mem_standings_group]
    obtain rfl | member := List.mem_cons.1 member
    · obtain ⟨standing, found, facts⟩ := Repetition.exists_standing_of_name outer
      exact ⟨standing, .inl found, facts⟩
    · obtain ⟨standing, found, facts⟩ := ih member
      exact ⟨standing, .inr (.inr found), facts⟩

/-! ## From a chain down -/

theorem exists_body_of_mem_numbering {inner : Chain} {entry : Int × Bool} (member : entry ∈ inner.numbering 0)
    (name : String) : ∃ body ∈ inner.alternativeBodies name, Name.child name entry.1 ∈ body := by
  have flat : entry.1 ∈ (splitAfter (inner.numbering 0)).flatten := by
    rw [flatten_splitAfter]
    exact List.mem_map_of_mem member
  obtain ⟨piece, listed, inside⟩ := List.mem_flatten.1 flat
  exact ⟨_, List.mem_map_of_mem listed, List.mem_map_of_mem inside⟩

/-- If an item is reached and said, so is the name under which it goes on. -/
theorem reaches_bodyName {grammar : Grammar} {first name : String} {repetition : Repetition}
    (spelled : repetition.IsSpelled) (said : ¬repetition.IsNever)
    (included : ∀ body ∈ repetition.bodies name, ⟨name, body⟩ ∈ grammar) (item : grammar.Reaches first name) :
    grammar.Reaches first (repetition.bodyName name) := by
  by_cases once : repetition = .once
  · subst once
    exact item
  · obtain ⟨body, listed, inside⟩ := Repetition.exists_body_of_not_isNever spelled once said name
    exact item.through (included body listed) rfl inside

/-- If the items of a chain are reached, so is every identifier in it that stands under no range that ends at zero. -/
theorem reaches_of_isLive {grammar : Grammar} {first : String}
    (spelled : ∀ repetition ∈ chain.repetitions, repetition.IsSpelled)
    (included : chain.productions scope number ⊆ grammar)
    (items : ∀ entry ∈ chain.numbering number, grammar.Reaches first (Name.child scope entry.1)) {standing : Standing}
    (member : standing ∈ chain.standings around path position scope number) (live : standing.IsLive) :
    grammar.Reaches first standing.name := by
  induction chain generalizing around path position scope number with
  | nil => exact absurd member List.not_mem_nil
  | broken index => exact absurd member List.not_mem_nil
  | leaf content repetition closes next ih =>
    rw [repetitions, List.forall_mem_cons] at spelled
    have item := items _ (List.mem_cons_self ..)
    simp only [mem_standings_leaf, Repetition.mem_standings] at member
    obtain (⟨_, rfl⟩ | rfl) | member := member
    · exact item
    · have said := live repetition (List.mem_cons_self ..)
      exact reaches_bodyName spelled.1 said
        (fun body listed => included (mem_productions_leaf.2 (.inl ⟨rfl, listed⟩))) item
    · refine ih spelled.2 (fun production later => included (mem_productions_leaf.2 (.inr (.inr later)))) ?_ member
      exact fun entry later => items entry (List.mem_cons_of_mem _ later)
  | group inner repetition closes next ihInner ih =>
    rw [repetitions, List.forall_mem_cons, List.forall_mem_append] at spelled
    have item := items _ (List.mem_cons_self ..)
    -- The content is reached if the repetition is not of no times, and then so are the items in the group.
    have content (said : ¬repetition.IsNever) :
        grammar.Reaches first (repetition.bodyName (Name.child scope number)) :=
      reaches_bodyName spelled.1 said
        (fun body listed => included (mem_productions_group.2 (.inl ⟨rfl, listed⟩))) item
    simp only [mem_standings_group, Repetition.mem_standings] at member
    obtain (⟨_, rfl⟩ | rfl) | member | member := member
    · exact item
    · exact content (live repetition (List.mem_cons_self ..))
    · have said := live repetition (around_subset_under member (List.mem_cons_self ..))
      refine ihInner spelled.2.1
        (fun production within => included (mem_productions_group.2 (.inr (.inr (.inl within))))) ?_ member
      intro entry numbered
      obtain ⟨body, listed, inside⟩ :=
        exists_body_of_mem_numbering numbered (repetition.bodyName (Name.child scope number))
      have found := included (mem_productions_group.2 (.inr (.inl ⟨rfl, listed⟩)) :
        ⟨repetition.bodyName (Name.child scope number), body⟩ ∈ _)
      exact (content said).through found rfl inside
    · refine ih spelled.2.2 (fun production later => included (mem_productions_group.2 (.inr (.inr (.inr later))))) ?_
        member
      exact fun entry later => items entry (List.mem_cons_of_mem _ later)

/-! ## The live names are closed -/

/-- A production of a chain is for an identifier, and if that is live, then so is what stands in the production. -/
theorem exists_standing_of_mem_productions {production : Production}
    (member : production ∈ chain.productions scope number) :
    ∃ standing ∈ chain.standings around path position scope number, standing.name = production.name ∧
      (standing.IsLive → ∀ symbol ∈ production.symbols, symbol = Name.noise ∨ symbol ∈ chain.symbols ∨
        ∃ other ∈ chain.standings around path position scope number, other.name = symbol ∧ other.IsLive) := by
  induction chain generalizing around path position scope number with
  | nil => exact absurd member List.not_mem_nil
  | broken index => exact absurd member List.not_mem_nil
  | leaf content repetition closes next ih =>
    simp only [mem_standings_leaf, or_and_right, exists_or]
    obtain ⟨named, listed⟩ | member | member := mem_productions_leaf.1 member
    · refine .inl ⟨_, Repetition.mem_standings.2 (.inl ⟨Repetition.ne_once_of_mem_bodies listed, rfl⟩), named.symm, ?_⟩
      intro live symbol inside
      obtain noise | found := Repetition.exists_standing_of_mem_bodies live listed inside
      · exact .inl noise
      · exact .inr (.inr (.inl found))
    · refine .inl ⟨_, Repetition.mem_standings.2 (.inr rfl), (Leaf.name_eq_of_mem_productions member).symm, ?_⟩
      intro _ symbol inside
      cases content with
      | symbol reference =>
        obtain rfl := List.mem_singleton.1 member
        obtain rfl := List.mem_singleton.1 inside
        exact .inr (.inl (List.mem_cons_self ..))
      | _ => exact absurd member List.not_mem_nil
    · obtain ⟨standing, found, named, closed⟩ := @ih around path (position + 1) scope (number + 1) member
      refine .inr ⟨standing, found, named, fun live symbol inside => ?_⟩
      obtain noise | referenced | later := closed live symbol inside
      · exact .inl noise
      · refine .inr (.inl ?_)
        simp only [symbols, leaves, List.filterMap_cons]
        split <;> simp_all [symbols]
      · exact .inr (.inr (.inr later))
  | group inner repetition closes next ihInner ih =>
    simp only [mem_standings_group, or_and_right, exists_or]
    have symbols_group : (Chain.group inner repetition closes next).symbols = inner.symbols ++ next.symbols := by
      simp only [symbols, leaves, List.filterMap_append]
    rw [symbols_group]
    obtain ⟨named, listed⟩ | ⟨named, listed⟩ | member | member := mem_productions_group.1 member
    · refine .inl ⟨_, Repetition.mem_standings.2 (.inl ⟨Repetition.ne_once_of_mem_bodies listed, rfl⟩), named.symm, ?_⟩
      intro live symbol inside
      obtain noise | found := Repetition.exists_standing_of_mem_bodies live listed inside
      · exact .inl noise
      · exact .inr (.inr (.inl found))
    · refine .inl ⟨_, Repetition.mem_standings.2 (.inr rfl), named.symm, fun live symbol inside => ?_⟩
      obtain ⟨entry, numbered, rfl⟩ := mem_alternativeBodies listed inside
      exact .inr (.inr (.inr (.inl (exists_standing_of_mem_numbering live numbered))))
    · obtain ⟨standing, found, named, closed⟩ :=
        @ihInner (repetition :: around) (path ++ [position]) 0 (repetition.bodyName (Name.child scope number)) 0 member
      refine .inr (.inl ⟨standing, found, named, fun live symbol inside => ?_⟩)
      obtain noise | referenced | within := closed live symbol inside
      · exact .inl noise
      · exact .inr (.inl (List.mem_append_left _ referenced))
      · exact .inr (.inr (.inr (.inl within)))
    · obtain ⟨standing, found, named, closed⟩ := @ih around path (position + 1) scope (number + 1) member
      refine .inr (.inr ⟨standing, found, named, fun live symbol inside => ?_⟩)
      obtain noise | referenced | later := closed live symbol inside
      · exact .inl noise
      · exact .inr (.inl (List.mem_append_right _ referenced))
      · exact .inr (.inr (.inr (.inr later)))

end Chain

/-! ## Whole sentences -/

namespace Chain

variable {number : Int} {chain : Chain}

/-- No symbol of the chain has the name of an identifier of the chain. -/
def SymbolsApart (number : Int) (chain : Chain) : Prop :=
  ∀ symbol ∈ chain.symbols, ∀ identifier ∈ chain.sentenceIdentifiers number, identifier.name ≠ symbol

instance (number : Int) (chain : Chain) : Decidable (chain.SymbolsApart number) :=
  inferInstanceAs (Decidable (∀ symbol ∈ chain.symbols, ∀ identifier ∈ chain.sentenceIdentifiers number, _))

/-- The name is the start, a root, a terminal, a symbol, or that of an identifier that is live. -/
inductive IsLiveName (number : Int) (chain : Chain) : String → Prop where
  | start : IsLiveName number chain Name.start
  | fixed {name : String} (listed : name ∈ Name.fixed) : IsLiveName number chain name
  | symbol {name : String} (referenced : name ∈ chain.symbols) : IsLiveName number chain name
  | root {position : Nat} (inside : position < chain.count) :
      IsLiveName number chain (Name.child Name.rootScope (number + position))
  | standing {standing : Standing} (member : standing ∈ chain.wordStandings number) (live : standing.IsLive) :
      IsLiveName number chain standing.name

theorem covers_word_of_mem_wordStandings {standing : Standing} (member : standing ∈ chain.wordStandings number) :
    Name.Covers Name.wordScope standing.name :=
  (numbered_of_mem_identifiers (toIdentifier_mem_identifiers member)).covers

/-- Among the identifiers of words, only those that are live have live names. -/
theorem isLive_of_isLiveName (apart : chain.SymbolsApart number) {standing : Standing}
    (member : standing ∈ chain.wordStandings number) (named : chain.IsLiveName number standing.name) :
    standing.IsLive := by
  have word := covers_word_of_mem_wordStandings member
  generalize same : standing.name = name at named
  rw [same] at word
  cases named with
  | start => exact absurd (List.mem_cons_self ..) (Name.not_reserved_of_covers_word word)
  | fixed listed => exact absurd (List.mem_cons_of_mem _ listed) (Name.not_reserved_of_covers_word word)
  | symbol referenced =>
    have listed : standing.toIdentifier ∈ chain.sentenceIdentifiers number :=
      mem_sentenceIdentifiers.2 (.inr (toIdentifier_mem_identifiers member))
    exact absurd same (apart name referenced _ listed)
  | root inside => exact absurd word (Name.not_covers_word_of_covers_root (Name.covers_child _ _))
  | standing found live =>
    rw [standing_eq_of_name_eq member found same]
    exact live

/-- The name of a top-level item is live. -/
theorem isLiveName_word {position : Nat} (inside : position < chain.count) :
    chain.IsLiveName number (Name.child Name.wordScope (number + position)) := by
  have listed : number + position ∈ (chain.numbering number).map Prod.fst := by
    rw [map_fst_numbering]
    exact List.mem_map_of_mem (List.mem_range.2 inside)
  obtain ⟨entry, numbered, same⟩ := List.mem_map.1 listed
  have none : ∀ r ∈ ([] : List Repetition), ¬r.IsNever := fun _ impossible => absurd impossible List.not_mem_nil
  obtain ⟨standing, found, named, live⟩ := exists_standing_of_mem_numbering none numbered
  rw [← same, ← named]
  exact .standing found live

/-- The live names are closed under the productions of the sentence. -/
theorem isLiveName_of_mem_symbols (apart : chain.SymbolsApart number) {production : Production}
    (member : production ∈ chain.sentenceProductions number) (named : chain.IsLiveName number production.name) :
    ∀ symbol ∈ production.symbols, chain.IsLiveName number symbol := by
  intro symbol inside
  obtain rfl | ⟨position, small, rfl⟩ | member := mem_sentenceProductions.1 member
  · simp only [List.mem_append, List.mem_cons, List.mem_map, List.mem_range, List.not_mem_nil, or_false] at inside
    obtain (rfl | ⟨position, small, rfl⟩) | rfl := inside
    · exact .fixed (by decide)
    · exact .root small
    · exact .fixed (by decide)
  · obtain rfl := List.mem_singleton.1 inside
    exact isLiveName_word small
  · obtain ⟨standing, found, same, closed⟩ := exists_standing_of_mem_productions member
    rw [← same] at named
    obtain rfl | referenced | ⟨other, listed, rfl, live⟩ := closed (isLive_of_isLiveName apart found named) symbol inside
    · exact .fixed (by decide)
    · exact .symbol referenced
    · exact .standing listed live

/-- The start reaches the name of every top-level item. -/
theorem reaches_word {position : Nat} (inside : position < chain.count) :
    Grammar.Reaches (chain.sentenceProductions number) Name.start (Name.child Name.wordScope (number + position)) := by
  have start : Grammar.Reaches (chain.sentenceProductions number) Name.start Name.start := .refl
  have root : Grammar.Reaches (chain.sentenceProductions number) Name.start
      (Name.child Name.rootScope (number + position)) := by
    refine start.through (mem_sentenceProductions.2 (.inl rfl)) rfl ?_
    refine List.mem_append_left _ (List.mem_cons_of_mem _ ?_)
    exact List.mem_map.2 ⟨position, List.mem_range.2 inside, rfl⟩
  exact root.through (mem_sentenceProductions.2 (.inr (.inl ⟨position, inside, rfl⟩))) rfl (List.mem_singleton_self _)

/-- An identifier of a word is reached exactly if it is live. -/
theorem reaches_iff_isLive (spelled : ∀ repetition ∈ chain.repetitions, repetition.IsSpelled)
    (apart : chain.SymbolsApart number) {standing : Standing} (member : standing ∈ chain.wordStandings number) :
    Grammar.Reaches (chain.sentenceProductions number) Name.start standing.name ↔ standing.IsLive := by
  constructor
  · intro reached
    apply isLive_of_isLiveName apart member
    exact reached.of_closed .start fun production listed named => isLiveName_of_mem_symbols apart listed named
  · intro live
    have included : chain.productions Name.wordScope number ⊆ chain.sentenceProductions number :=
      List.subset_append_right ..
    refine reaches_of_isLive spelled included (fun entry numbered => ?_) member live
    have listed : entry.1 ∈ (chain.numbering number).map Prod.fst := List.mem_map_of_mem numbered
    rw [map_fst_numbering] at listed
    obtain ⟨position, small, same⟩ := List.mem_map.1 listed
    rw [← same]
    exact reaches_word (List.mem_range.1 small)

end Chain

/-- Whatever stands in a production is a fixed terminal, a symbol from the list, the name of a production, or the name
of a section. -/
def Lowered.IsClosed (lowered : Lowered) (symbols : List String) : Prop :=
  ∀ production ∈ lowered.grammar, ∀ symbol ∈ production.symbols, symbol ∈ Name.fixed ∨ symbol ∈ symbols ∨
    symbol ∈ lowered.grammar.map Production.name ∨ symbol ∈ lowered.vocabulary.map Section.name

theorem Chain.isClosed_sentenceLowered {chain : Chain} {number : Int} (known : chain.IsKnown) (proper : chain.IsProper)
    (transliterate : Transliterator) : (chain.sentenceLowered transliterate number).IsClosed chain.symbols := by
  intro production member symbol inside
  obtain fixed | named | referenced := mem_symbols_of_mem_sentenceProductions member inside
  · exact .inl fixed
  · obtain ⟨identifier, found, rfl⟩ := List.mem_map.1 named
    have generated := @mem_generated_of_mem_sentenceIdentifiers transliterate number chain identifier known proper found
    exact .inr (.inr (List.mem_append.1 generated))
  · exact .inr (.inl referenced)

/-- What an accepted pattern is lowered to is closed. Unless a symbol has the name of an identifier, every identifier of
an item is reached from the start exactly if neither the groups around the item nor, for the name under which the item
goes on, the item itself is repeated by a range that ends at zero. -/
theorem isClosed_and_reaches_iff [Limits] {source : Source} {table : NodeTable} (accepted : Pattern.parse source = .ok table)
    {transliterate : Transliterator} {number : Int} {lowered : Lowered}
    (lowers : table.lower transliterate number = .ok lowered) :
    lowered.IsClosed table.chain.symbols ∧
      (table.chain.SymbolsApart number → ∀ standing ∈ table.chain.wordStandings number,
        lowered.grammar.Reaches Name.start standing.name ↔ ∀ repetition ∈ standing.under, ¬repetition.IsNever) := by
  obtain ⟨known, _, _, rfl⟩ := NodeTable.lower_eq_ok_iff.1 lowers
  obtain ⟨_, proper⟩ := isProper_of_parse accepted
  refine ⟨Chain.isClosed_sentenceLowered known proper transliterate, fun apart standing member => ?_⟩
  exact Chain.reaches_iff_isLive (isSpelled_of_parse accepted) apart member

/-- An alternative and a group that are said no times, and a symbol beside them. -/
def skippedSource : Source := ⟨"('a'\x7b0\x7d | <x>)+ ('b' 'c'?)\x7b0,0\x7d", "example", 1⟩

section
open scoped Workstation

theorem isClosed_and_reaches_iff_skipped : ∃ table lowered,
    Pattern.parse skippedSource = .ok table ∧ table.lower Transliterator.verbatim 3 = .ok lowered ∧
      table.chain.SymbolsApart 3 ∧ lowered.IsClosed table.chain.symbols ∧
      lowered.grammar.Reaches Name.start "WORD_3_LOOP_1" ∧
      ¬lowered.grammar.Reaches Name.start "WORD_3_LOOP_0_LOOP" ∧
      ¬lowered.grammar.Reaches Name.start "WORD_4_LOOP_1_LOOP" := by
  obtain ⟨table, accepted, lowers, apart, said, skipped, inside⟩ : ∃ table, Pattern.parse skippedSource = .ok table ∧
      table.lower Transliterator.verbatim 3 = .ok (table.chain.sentenceLowered Transliterator.verbatim 3) ∧
      table.chain.SymbolsApart 3 ∧
      ⟨⟨[0, 1], .base, "WORD_3_LOOP_1", false⟩, [.once, .oneOrMore]⟩ ∈ table.chain.wordStandings 3 ∧
      ⟨⟨[0, 0], .loop, "WORD_3_LOOP_0_LOOP", true⟩, [.range 0 0, .oneOrMore]⟩ ∈ table.chain.wordStandings 3 ∧
      ⟨⟨[1, 1], .loop, "WORD_4_LOOP_1_LOOP", true⟩, [.range 0 1, .range 0 0]⟩ ∈ table.chain.wordStandings 3 :=
    ⟨_, rfl, by decide +kernel, by decide +kernel, by decide +kernel, by decide +kernel, by decide +kernel⟩
  obtain ⟨closed, reaches⟩ := isClosed_and_reaches_iff accepted lowers
  refine ⟨table, _, accepted, lowers, apart, closed, ?_, ?_, ?_⟩
  · exact (reaches apart _ said).2 (by decide)
  · intro reached
    exact absurd ((reaches apart _ skipped).1 reached) (by decide)
  · intro reached
    exact absurd ((reaches apart _ inside).1 reached) (by decide)

end

end Utterance
