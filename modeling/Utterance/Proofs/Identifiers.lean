import Utterance.Proofs.ChainLanguage

/-!
# The identifiers of a chain

Lowering gives every item a name, and a repeated item a second one. Such an identifier either heads a section of the
vocabulary or is replaced by productions. `identifiers` lists them with the place of the item, and the sections and
productions of the chain are for exactly these; no two of them have the same name (`nodup_identifiers`).
-/

namespace Utterance
set_option autoImplicit false

/-- What an identifier stands for: the root of a top-level item, an item, or what a repeated item repeats. -/
inductive Role where
  | root
  | base
  | loop
  deriving DecidableEq

/-- A generated name, with the place and the role it was generated for. -/
structure Identifier where
  path : List Nat
  role : Role
  name : String
  heads : Bool
  deriving DecidableEq

/-- The place and the role. -/
def Identifier.key (identifier : Identifier) : List Nat × Role := (identifier.path, identifier.role)

/-- What the name is for under which an item goes on. -/
def Repetition.bodyRole : Repetition → Role
  | .once => .base
  | _ => .loop

/-- The identifiers of one item: its name if it is repeated, and the name under which it goes on. -/
def Repetition.identifiers (path : List Nat) (name : String) (heads : Bool) (repetition : Repetition) : List Identifier :=
  (if repetition = .once then [] else [⟨path, .base, name, false⟩]) ++
    [⟨path, repetition.bodyRole, repetition.bodyName name, heads⟩]

/-- Whether the leaf is a literal. -/
def Leaf.isLiteral : Leaf → Bool
  | .literal _ => true
  | _ => false

/-- The identifiers of the items of a chain. The place of an item is its position in the chain, after that of the group
that the chain is in. -/
def Chain.identifiers : (path : List Nat) → (position : Nat) → (scope : String) → (number : Int) → Chain →
    List Identifier
  | _, _, _, _, .nil => []
  | _, _, _, _, .broken _ => []
  | path, position, scope, number, .leaf content repetition _ next =>
    repetition.identifiers (path ++ [position]) (Name.child scope number) content.isLiteral ++
      next.identifiers path (position + 1) scope (number + 1)
  | path, position, scope, number, .group inner repetition _ next =>
    repetition.identifiers (path ++ [position]) (Name.child scope number) false ++
      inner.identifiers (path ++ [position]) 0 (repetition.bodyName (Name.child scope number)) 0 ++
      next.identifiers path (position + 1) scope (number + 1)

namespace Repetition

variable {path : List Nat} {name : String} {heads : Bool} {repetition : Repetition}

theorem mem_identifiers {identifier : Identifier} : identifier ∈ repetition.identifiers path name heads ↔
    (repetition ≠ .once ∧ identifier = ⟨path, .base, name, false⟩) ∨
      identifier = ⟨path, repetition.bodyRole, repetition.bodyName name, heads⟩ := by
  by_cases once : repetition = .once <;> simp [identifiers, once]

theorem name_mem_identifiers : name ∈ (repetition.identifiers path name heads).map Identifier.name := by
  by_cases once : repetition = .once <;> simp [identifiers, once, bodyName]

theorem bodyName_mem_identifiers :
    repetition.bodyName name ∈ (repetition.identifiers path name heads).map Identifier.name := by
  simp [identifiers]

theorem eq_of_mem_identifiers {identifier : Identifier} (member : identifier ∈ repetition.identifiers path name heads) :
    identifier.name = name ∨ identifier.name = repetition.bodyName name := by
  obtain ⟨_, rfl⟩ | rfl := mem_identifiers.1 member
  · exact .inl rfl
  · exact .inr rfl

theorem covers_of_mem_identifiers {identifier : Identifier}
    (member : identifier ∈ repetition.identifiers path name heads) : Name.Covers name identifier.name := by
  obtain same | same := eq_of_mem_identifiers member
  · exact same ▸ Name.covers_self name
  · exact same ▸ repetition.covers_bodyName name

theorem nodup_identifiers : ((repetition.identifiers path name heads).map Identifier.name).Nodup := by
  by_cases once : repetition = .once
  · simp [identifiers, once]
  · simpa [identifiers, once] using (bodyName_ne once name).symm

theorem key_of_mem_identifiers {identifier : Identifier}
    (member : identifier ∈ repetition.identifiers path name heads) :
    identifier.path = path ∧ identifier.role ≠ .root := by
  obtain ⟨_, rfl⟩ | rfl := mem_identifiers.1 member
  · exact ⟨rfl, by simp⟩
  · exact ⟨rfl, by cases repetition <;> simp [bodyRole]⟩

theorem nodup_keys : ((repetition.identifiers path name heads).map Identifier.key).Nodup := by
  cases repetition <;> simp [identifiers, Identifier.key, bodyRole]

theorem eq_of_mem_bodies {body : List String} {symbol : String} (listed : body ∈ repetition.bodies name)
    (inside : symbol ∈ body) : symbol = Name.noise ∨ symbol = name ∨ symbol = repetition.bodyName name := by
  cases repetition with
  | range least most =>
    obtain ⟨count, _, _, rfl⟩ := mem_countedBodies.1 listed
    unfold countedBody at inside
    split at inside
    · exact .inl (List.mem_singleton.1 inside)
    · exact .inr (.inr (List.eq_of_mem_replicate inside))
  | zeroOrMore =>
    simp only [bodies, List.mem_cons, List.not_mem_nil, or_false] at listed
    obtain rfl | rfl | rfl := listed <;> simp_all [bodyName]
  | oneOrMore =>
    simp only [bodies, List.mem_cons, List.not_mem_nil, or_false] at listed
    obtain rfl | rfl := listed <;> simp_all [bodyName]
  | _ => exact absurd listed List.not_mem_nil

theorem ne_once_of_mem_bodies {body : List String} (listed : body ∈ repetition.bodies name) : repetition ≠ .once := by
  rintro rfl
  exact absurd listed List.not_mem_nil

end Repetition

namespace Chain

variable {path : List Nat} {position : Nat} {scope : String} {number : Int} {chain : Chain}

theorem identifiers_leaf (content : Leaf) (repetition : Repetition) (closes : Bool) (next : Chain) :
    (Chain.leaf content repetition closes next).identifiers path position scope number =
      repetition.identifiers (path ++ [position]) (Name.child scope number) content.isLiteral ++
        next.identifiers path (position + 1) scope (number + 1) := rfl

theorem identifiers_group (inner : Chain) (repetition : Repetition) (closes : Bool) (next : Chain) :
    (Chain.group inner repetition closes next).identifiers path position scope number =
      repetition.identifiers (path ++ [position]) (Name.child scope number) false ++
        inner.identifiers (path ++ [position]) 0 (repetition.bodyName (Name.child scope number)) 0 ++
        next.identifiers path (position + 1) scope (number + 1) := rfl

theorem mem_identifiers_leaf {content : Leaf} {repetition : Repetition} {closes : Bool} {next : Chain}
    {identifier : Identifier} :
    identifier ∈ (Chain.leaf content repetition closes next).identifiers path position scope number ↔
      identifier ∈ repetition.identifiers (path ++ [position]) (Name.child scope number) content.isLiteral ∨
        identifier ∈ next.identifiers path (position + 1) scope (number + 1) := by
  rw [identifiers_leaf, List.mem_append]

theorem mem_identifiers_group {inner : Chain} {repetition : Repetition} {closes : Bool} {next : Chain}
    {identifier : Identifier} :
    identifier ∈ (Chain.group inner repetition closes next).identifiers path position scope number ↔
      identifier ∈ repetition.identifiers (path ++ [position]) (Name.child scope number) false ∨
        identifier ∈ inner.identifiers (path ++ [position]) 0 (repetition.bodyName (Name.child scope number)) 0 ∨
        identifier ∈ next.identifiers path (position + 1) scope (number + 1) := by
  rw [identifiers_group, List.mem_append, List.mem_append, or_assoc]

/-- The identifiers of a chain lie below its items. -/
theorem numbered_of_mem_identifiers {identifier : Identifier}
    (member : identifier ∈ chain.identifiers path position scope number) :
    Name.Numbered scope number (number + chain.count) identifier.name := by
  induction chain generalizing path position scope number with
  | nil => exact absurd member List.not_mem_nil
  | broken index => exact absurd member List.not_mem_nil
  | leaf content repetition closes next ih =>
    simp only [count]
    obtain member | member := mem_identifiers_leaf.1 member
    · exact ⟨number, by omega, by omega, Repetition.covers_of_mem_identifiers member⟩
    · exact (ih member).mono (by omega) (by omega)
  | group inner repetition closes next ihInner ih =>
    simp only [count]
    obtain member | member | member := mem_identifiers_group.1 member
    · exact ⟨number, by omega, by omega, Repetition.covers_of_mem_identifiers member⟩
    · exact ⟨number, by omega, by omega, (repetition.covers_bodyName _).trans (ihInner member).covers⟩
    · exact (ih member).mono (by omega) (by omega)

/-- The identifiers of the items after one do not lie below it. -/
theorem not_covers_of_mem_identifiers {identifier : Identifier}
    (later : identifier ∈ chain.identifiers path position scope (number + 1)) :
    ¬Name.Covers (Name.child scope number) identifier.name :=
  (numbered_of_mem_identifiers later).not_covers (.inl (by omega))

/-- No two identifiers of a chain have the same name. -/
theorem nodup_identifiers : ((chain.identifiers path position scope number).map Identifier.name).Nodup := by
  induction chain generalizing path position scope number with
  | nil => exact List.nodup_nil
  | broken index => exact List.nodup_nil
  | leaf content repetition closes next ih =>
    simp only [identifiers_leaf, List.map_append, List.nodup_append, List.forall_mem_map]
    refine ⟨Repetition.nodup_identifiers, ih, fun own member other later same => ?_⟩
    have covers := Repetition.covers_of_mem_identifiers member
    exact not_covers_of_mem_identifiers later (same ▸ covers)
  | group inner repetition closes next ihInner ih =>
    simp only [identifiers_group, List.map_append, List.nodup_append, List.forall_mem_map, List.forall_mem_append]
    refine ⟨⟨Repetition.nodup_identifiers, ihInner, fun own member other within same => ?_⟩, ih,
      fun own member other later same => ?_, fun own within other later same => ?_⟩
    · obtain ⟨notItem, notBody⟩ := Repetition.ne_of_numbered_bodyName (numbered_of_mem_identifiers within)
      obtain named | named := Repetition.eq_of_mem_identifiers member
      · exact notItem (same.symm.trans named)
      · exact notBody (same.symm.trans named)
    · have covers := Repetition.covers_of_mem_identifiers member
      exact not_covers_of_mem_identifiers later (same ▸ covers)
    · have covers := (repetition.covers_bodyName _).trans (numbered_of_mem_identifiers within).covers
      exact not_covers_of_mem_identifiers later (same ▸ covers)

/-- The identifiers of a chain are for places from the position on, inside of the path. -/
theorem key_of_mem_identifiers {identifier : Identifier}
    (member : identifier ∈ chain.identifiers path position scope number) :
    (∃ place rest, position ≤ place ∧ identifier.path = path ++ place :: rest) ∧ identifier.role ≠ .root := by
  induction chain generalizing path position scope number with
  | nil => exact absurd member List.not_mem_nil
  | broken index => exact absurd member List.not_mem_nil
  | leaf content repetition closes next ih =>
    obtain member | member := mem_identifiers_leaf.1 member
    · obtain ⟨placed, noRoot⟩ := Repetition.key_of_mem_identifiers member
      exact ⟨⟨position, [], Nat.le_refl _, placed⟩, noRoot⟩
    · obtain ⟨⟨place, rest, after, placed⟩, noRoot⟩ := ih member
      exact ⟨⟨place, rest, by omega, placed⟩, noRoot⟩
  | group inner repetition closes next ihInner ih =>
    obtain member | member | member := mem_identifiers_group.1 member
    · obtain ⟨placed, noRoot⟩ := Repetition.key_of_mem_identifiers member
      exact ⟨⟨position, [], Nat.le_refl _, placed⟩, noRoot⟩
    · obtain ⟨⟨place, rest, _, placed⟩, noRoot⟩ := ihInner member
      exact ⟨⟨position, place :: rest, Nat.le_refl _, by rw [placed, List.append_assoc]; rfl⟩, noRoot⟩
    · obtain ⟨⟨place, rest, after, placed⟩, noRoot⟩ := ih member
      exact ⟨⟨place, rest, by omega, placed⟩, noRoot⟩

/-- The identifiers of the items after one are not for places at or below it. -/
theorem path_ne_of_mem_identifiers {identifier : Identifier} {below : List Nat}
    (later : identifier ∈ chain.identifiers path (position + 1) scope number) :
    identifier.path ≠ path ++ position :: below := by
  obtain ⟨⟨place, rest, after, placed⟩, _⟩ := key_of_mem_identifiers later
  intro same
  have heads := List.append_cancel_left (placed.symm.trans same)
  simp only [List.cons.injEq] at heads
  omega

/-- No two identifiers of a chain are for the same place in the same role. -/
theorem nodup_keys : ((chain.identifiers path position scope number).map Identifier.key).Nodup := by
  induction chain generalizing path position scope number with
  | nil => exact List.nodup_nil
  | broken index => exact List.nodup_nil
  | leaf content repetition closes next ih =>
    simp only [identifiers_leaf, List.map_append, List.nodup_append, List.forall_mem_map]
    refine ⟨Repetition.nodup_keys, ih, fun own member other later same => ?_⟩
    have placed := (Repetition.key_of_mem_identifiers member).1
    exact path_ne_of_mem_identifiers later ((congrArg Prod.fst same).symm.trans placed)
  | group inner repetition closes next ihInner ih =>
    simp only [identifiers_group, List.map_append, List.nodup_append, List.forall_mem_map, List.forall_mem_append]
    refine ⟨⟨Repetition.nodup_keys, ihInner, fun own member other within same => ?_⟩, ih,
      fun own member other later same => ?_, fun own within other later same => ?_⟩
    · have placed := (Repetition.key_of_mem_identifiers member).1
      obtain ⟨⟨place, rest, _, placedToo⟩, _⟩ := key_of_mem_identifiers within
      have paths := (congrArg Prod.fst same).symm.trans placed
      rw [Identifier.key, placedToo] at paths
      simpa using List.append_right_eq_self.1 paths
    · have placed := (Repetition.key_of_mem_identifiers member).1
      exact path_ne_of_mem_identifiers later ((congrArg Prod.fst same).symm.trans placed)
    · obtain ⟨⟨place, rest, _, placed⟩, _⟩ := key_of_mem_identifiers within
      rw [List.append_assoc] at placed
      exact path_ne_of_mem_identifiers later ((congrArg Prod.fst same).symm.trans placed)

/-- The sections of a chain are headed by the identifiers that head one, in order. -/
theorem map_name_sections (transliterate : Transliterator) :
    (chain.sections transliterate scope number).map Section.name =
      ((chain.identifiers path position scope number).filter Identifier.heads).map Identifier.name := by
  induction chain generalizing path position scope number with
  | nil => rfl
  | broken index => rfl
  | leaf content repetition closes next ih =>
    simp only [sections, identifiers_leaf, List.map_append, List.filter_append]
    refine congrArg₂ (· ++ ·) ?_ ih
    cases content <;> cases repetition <;> rfl
  | group inner repetition closes next ihInner ih =>
    simp only [sections, identifiers_group, List.map_append, List.filter_append]
    refine congrArg₂ (· ++ ·) ?_ ih
    rw [@ihInner (path ++ [position]) 0]
    cases repetition <;> rfl

/-- The numbers of the items make identifiers. -/
theorem child_mem_identifiers {entry : Int × Bool} (member : entry ∈ chain.numbering number) :
    Name.child scope entry.1 ∈ (chain.identifiers path position scope number).map Identifier.name := by
  induction chain generalizing path position number with
  | nil => simp [numbering] at member
  | broken index => simp [numbering] at member
  | leaf content repetition closes next ih =>
    rw [identifiers_leaf, List.map_append, List.mem_append]
    obtain rfl | member := List.mem_cons.1 member
    · exact .inl Repetition.name_mem_identifiers
    · exact .inr (ih member)
  | group inner repetition closes next _ ih =>
    rw [identifiers_group, List.map_append, List.map_append, List.mem_append, List.mem_append]
    obtain rfl | member := List.mem_cons.1 member
    · exact .inl (.inl Repetition.name_mem_identifiers)
    · exact .inr (ih member)

/-- The productions of a chain are for the identifiers that head no section. -/
theorem exists_identifier_of_mem_productions {production : Production}
    (member : production ∈ chain.productions scope number) :
    ∃ identifier ∈ chain.identifiers path position scope number,
      identifier.heads = false ∧ identifier.name = production.name := by
  induction chain generalizing path position scope number with
  | nil => simp [productions] at member
  | broken index => simp [productions] at member
  | leaf content repetition closes next ih =>
    simp only [mem_identifiers_leaf, Repetition.mem_identifiers]
    obtain ⟨named, listed⟩ | member | member := mem_productions_leaf.1 member
    · exact ⟨_, .inl (.inl ⟨Repetition.ne_once_of_mem_bodies listed, rfl⟩), rfl, named.symm⟩
    · have noLiteral : content.isLiteral = false := by
        cases content <;> simp_all [Leaf.productions, Leaf.isLiteral]
      exact ⟨_, .inl (.inr rfl), noLiteral, (Leaf.name_eq_of_mem_productions member).symm⟩
    · obtain ⟨identifier, found, facts⟩ := ih member
      exact ⟨identifier, .inr found, facts⟩
  | group inner repetition closes next ihInner ih =>
    simp only [mem_identifiers_group, Repetition.mem_identifiers]
    obtain ⟨named, listed⟩ | ⟨named, _⟩ | member | member := mem_productions_group.1 member
    · exact ⟨_, .inl (.inl ⟨Repetition.ne_once_of_mem_bodies listed, rfl⟩), rfl, named.symm⟩
    · exact ⟨_, .inl (.inr rfl), rfl, named.symm⟩
    · obtain ⟨identifier, found, facts⟩ := ihInner member
      exact ⟨identifier, .inr (.inl found), facts⟩
    · obtain ⟨identifier, found, facts⟩ := ih member
      exact ⟨identifier, .inr (.inr found), facts⟩

/-- Every identifier that heads no section has a production. -/
theorem exists_production_of_mem_identifiers {identifier : Identifier} (known : chain.IsKnown) (proper : chain.IsProper)
    (member : identifier ∈ chain.identifiers path position scope number) (plain : identifier.heads = false) :
    ∃ production ∈ chain.productions scope number, production.name = identifier.name := by
  induction chain generalizing path position scope number with
  | nil => exact absurd member List.not_mem_nil
  | broken index => exact absurd member List.not_mem_nil
  | leaf content repetition closes next ih =>
    simp only [mem_identifiers_leaf, Repetition.mem_identifiers] at member
    obtain (⟨repeated, rfl⟩ | rfl) | member := member
    · obtain ⟨body, listed⟩ := List.exists_mem_of_ne_nil _
        (Repetition.bodies_ne_nil known.2.1 proper.1 repeated (Name.child scope number))
      exact ⟨⟨_, body⟩, mem_productions_leaf.2 (.inl ⟨rfl, listed⟩), rfl⟩
    · cases content with
      | literal text => cases plain
      | symbol reference =>
        exact ⟨⟨_, [reference]⟩, mem_productions_leaf.2 (.inr (.inl (List.mem_singleton_self _))), rfl⟩
      | other kind => exact known.1.elim
    · obtain ⟨production, found, named⟩ := ih known.2.2 proper.2 member
      exact ⟨production, mem_productions_leaf.2 (.inr (.inr found)), named⟩
  | group inner repetition closes next ihInner ih =>
    simp only [mem_identifiers_group, Repetition.mem_identifiers] at member
    obtain (⟨repeated, rfl⟩ | rfl) | member | member := member
    · obtain ⟨body, listed⟩ := List.exists_mem_of_ne_nil _
        (Repetition.bodies_ne_nil known.2.1 proper.2.1 repeated (Name.child scope number))
      exact ⟨⟨_, body⟩, mem_productions_group.2 (.inl ⟨rfl, listed⟩), rfl⟩
    · obtain ⟨body, listed⟩ := List.exists_mem_of_ne_nil _
        (alternativeBodies_ne_nil proper.1.1 (repetition.bodyName (Name.child scope number)))
      exact ⟨⟨_, body⟩, mem_productions_group.2 (.inr (.inl ⟨rfl, listed⟩)), rfl⟩
    · obtain ⟨production, found, named⟩ := ihInner known.1 proper.1.2 member
      exact ⟨production, mem_productions_group.2 (.inr (.inr (.inl found))), named⟩
    · obtain ⟨production, found, named⟩ := ih known.2.2 proper.2.2 member
      exact ⟨production, mem_productions_group.2 (.inr (.inr (.inr found))), named⟩

theorem mem_alternativeBodies {inner : Chain} {name symbol : String} {body : List String}
    (listed : body ∈ inner.alternativeBodies name) (member : symbol ∈ body) :
    ∃ entry ∈ inner.numbering 0, symbol = Name.child name entry.1 := by
  obtain ⟨piece, found, rfl⟩ := List.mem_map.1 listed
  obtain ⟨child, inside, rfl⟩ := List.mem_map.1 member
  have flat : child ∈ (splitAfter (inner.numbering 0)).flatten := List.mem_flatten_of_mem found inside
  rw [flatten_splitAfter] at flat
  obtain ⟨entry, numbered, rfl⟩ := List.mem_map.1 flat
  exact ⟨entry, numbered, rfl⟩

/-- What stands in a production of a chain: noise, identifiers of the chain and symbols of the chain. -/
theorem mem_symbols_of_mem_productions {production : Production} {symbol : String}
    (member : production ∈ chain.productions scope number) (inside : symbol ∈ production.symbols) :
    symbol = Name.noise ∨ symbol ∈ (chain.identifiers path position scope number).map Identifier.name ∨
      symbol ∈ chain.symbols := by
  induction chain generalizing path position scope number with
  | nil => simp [productions] at member
  | broken index => simp [productions] at member
  | leaf content repetition closes next ih =>
    simp only [identifiers_leaf, List.map_append, List.mem_append]
    obtain ⟨_, listed⟩ | member | member := mem_productions_leaf.1 member
    · obtain rfl | rfl | rfl := Repetition.eq_of_mem_bodies listed inside
      · exact .inl rfl
      · exact .inr (.inl (.inl Repetition.name_mem_identifiers))
      · exact .inr (.inl (.inl Repetition.bodyName_mem_identifiers))
    · cases content with
      | symbol reference =>
        obtain rfl := List.mem_singleton.1 member
        obtain rfl := List.mem_singleton.1 inside
        exact .inr (.inr (List.mem_cons_self ..))
      | _ => exact absurd member List.not_mem_nil
    · obtain noise | named | referenced := ih member
      · exact .inl noise
      · exact .inr (.inl (.inr named))
      · refine .inr (.inr ?_)
        simp only [symbols, leaves, List.filterMap_cons]
        split <;> simp_all [symbols]
  | group inner repetition closes next ihInner ih =>
    simp only [identifiers_group, List.map_append, List.mem_append, symbols, leaves, List.filterMap_append]
    obtain ⟨_, listed⟩ | ⟨_, listed⟩ | member | member := mem_productions_group.1 member
    · obtain rfl | rfl | rfl := Repetition.eq_of_mem_bodies listed inside
      · exact .inl rfl
      · exact .inr (.inl (.inl (.inl Repetition.name_mem_identifiers)))
      · exact .inr (.inl (.inl (.inl Repetition.bodyName_mem_identifiers)))
    · obtain ⟨entry, numbered, rfl⟩ := mem_alternativeBodies listed inside
      exact .inr (.inl (.inl (.inr (child_mem_identifiers numbered))))
    · obtain noise | named | referenced := ihInner member
      · exact .inl noise
      · exact .inr (.inl (.inl (.inr named)))
      · exact .inr (.inr (.inl referenced))
    · obtain noise | named | referenced := ih member
      · exact .inl noise
      · exact .inr (.inl (.inr named))
      · exact .inr (.inr (.inr referenced))

/-- The numbers of the items of a chain follow one another. -/
theorem map_fst_numbering :
    (chain.numbering number).map Prod.fst = (List.range chain.count).map fun (i : Nat) => number + i := by
  have shift : ∀ i : Nat, number + 1 + (i : Int) = number + ((i + 1 : Nat) : Int) := by
    intro i
    omega
  induction chain generalizing number with
  | nil => rfl
  | broken index => rfl
  | leaf content repetition closes next ih =>
    rw [numbering, List.map_cons, ih (by intro i; omega), count, List.range_succ_eq_map, List.map_cons, List.map_map]
    simp [shift, Function.comp_def]
  | group inner repetition closes next _ ih =>
    rw [numbering, List.map_cons, ih (by intro i; omega), count, List.range_succ_eq_map, List.map_cons, List.map_map]
    simp [shift, Function.comp_def]

end Chain

/-! ## Whole sentences -/

namespace Name

/-- The terminals of every grammar. -/
def fixed : List String := [silenceBegin, silenceEnd, noise]

/-- The names that are given by hand. -/
def reserved : List String := start :: fixed

theorem Covers.head {scope name : String} {c : Char} (covers : Covers scope name) (first : scope.toList.head? = some c) :
    name.toList.head? = some c := by
  obtain ⟨after, text, _⟩ := covers.exists_toList
  rw [text, List.head?_append, first]
  rfl

theorem not_reserved_of_covers_word {name : String} (covers : Covers wordScope name) : name ∉ reserved := by
  have first := covers.head (c := 'W') (by decide)
  intro listed
  simp only [reserved, fixed, List.mem_cons, List.not_mem_nil, or_false] at listed
  obtain rfl | rfl | rfl | rfl := listed <;> exact absurd first (by decide)

theorem not_reserved_of_covers_root {name : String} (covers : Covers rootScope name) : name ∉ reserved := by
  have first := covers.head (c := 'R') (by decide)
  intro listed
  simp only [reserved, fixed, List.mem_cons, List.not_mem_nil, or_false] at listed
  obtain rfl | rfl | rfl | rfl := listed <;> exact absurd first (by decide)

theorem not_covers_word_of_covers_root {name : String} (root : Covers rootScope name) : ¬Covers wordScope name := by
  intro word
  have same := (root.head (c := 'R') (by decide)).symm.trans (word.head (c := 'W') (by decide))
  cases same

theorem nodup_children (scope : String) (number : Int) (count : Nat) :
    ((List.range count).map fun (i : Nat) => child scope (number + i)).Nodup := by
  refine List.nodup_range.map fun first second same => ?_
  have numbers := child_injective same
  omega

theorem child_root_ne_start (number : Int) : child rootScope number ≠ start := by
  intro same
  exact not_reserved_of_covers_root (covers_child rootScope number) (same ▸ List.mem_cons_self ..)

end Name

/-- The identifier of the root of a top-level item. -/
def rootIdentifier (number : Int) (position : Nat) : Identifier :=
  ⟨[position], .root, Name.child Name.rootScope (number + position), false⟩

namespace Chain

variable {number : Int} {chain : Chain}

/-- The identifiers of a top-level chain: its roots and its words. -/
def sentenceIdentifiers (number : Int) (chain : Chain) : List Identifier :=
  (List.range chain.count).map (rootIdentifier number) ++ chain.identifiers [] 0 Name.wordScope number

theorem mem_sentenceIdentifiers {identifier : Identifier} : identifier ∈ chain.sentenceIdentifiers number ↔
    (∃ position < chain.count, identifier = rootIdentifier number position) ∨
      identifier ∈ chain.identifiers [] 0 Name.wordScope number := by
  simp [sentenceIdentifiers, eq_comm]

/-- The identifiers of a sentence lie below roots and words with the numbers of its items. -/
theorem numbered_of_mem_sentenceIdentifiers {identifier : Identifier}
    (member : identifier ∈ chain.sentenceIdentifiers number) :
    Name.Numbered Name.rootScope number (number + chain.count) identifier.name ∨
      Name.Numbered Name.wordScope number (number + chain.count) identifier.name := by
  obtain ⟨position, inside, rfl⟩ | member := mem_sentenceIdentifiers.1 member
  · exact .inl ⟨number + position, by omega, by omega, Name.covers_self _⟩
  · exact .inr (numbered_of_mem_identifiers member)

theorem not_reserved_of_mem_sentenceIdentifiers {identifier : Identifier}
    (member : identifier ∈ chain.sentenceIdentifiers number) : identifier.name ∉ Name.reserved := by
  obtain root | word := numbered_of_mem_sentenceIdentifiers member
  · exact Name.not_reserved_of_covers_root root.covers
  · exact Name.not_reserved_of_covers_word word.covers

/-- No two identifiers of a sentence have the same name. -/
theorem nodup_sentenceIdentifiers : ((chain.sentenceIdentifiers number).map Identifier.name).Nodup := by
  simp only [sentenceIdentifiers, List.map_append, List.nodup_append, List.map_map, List.forall_mem_map]
  refine ⟨Name.nodup_children _ _ _, nodup_identifiers, fun position _ word member same => ?_⟩
  have root : Name.Covers Name.rootScope word.name := same ▸ Name.covers_child _ _
  exact Name.not_covers_word_of_covers_root root (numbered_of_mem_identifiers member).covers

/-- No two identifiers of a sentence are for the same place in the same role. -/
theorem nodup_sentenceKeys : ((chain.sentenceIdentifiers number).map Identifier.key).Nodup := by
  simp only [sentenceIdentifiers, List.map_append, List.nodup_append, List.map_map, List.forall_mem_map]
  refine ⟨?_, nodup_keys, fun position _ word member same => ?_⟩
  · refine List.nodup_range.map fun first second same => ?_
    simpa [rootIdentifier, Identifier.key] using same
  · exact (key_of_mem_identifiers member).2 (congrArg Prod.snd same).symm

/-- The sections of a sentence are headed by the identifiers that head one, in order. -/
theorem map_name_sentenceSections (transliterate : Transliterator) :
    (chain.sections transliterate Name.wordScope number).map Section.name =
      ((chain.sentenceIdentifiers number).filter Identifier.heads).map Identifier.name := by
  have roots : ((List.range chain.count).map (rootIdentifier number)).filter Identifier.heads = [] := by
    simp [List.filter_eq_nil_iff, rootIdentifier]
  rw [sentenceIdentifiers, List.filter_append, roots, List.nil_append, map_name_sections]

theorem mem_sentenceProductions {production : Production} : production ∈ chain.sentenceProductions number ↔
    production = ⟨Name.start, Name.silenceBegin ::
        (List.range chain.count).map (fun (i : Nat) => Name.child Name.rootScope (number + i)) ++ [Name.silenceEnd]⟩ ∨
      (∃ position < chain.count, production = ⟨Name.child Name.rootScope (number + position),
        [Name.child Name.wordScope (number + position)]⟩) ∨
      production ∈ chain.productions Name.wordScope number := by
  simp only [sentenceProductions, rootProductions, map_fst_numbering, List.mem_append, List.mem_cons, List.map_map,
    List.mem_map, List.mem_range, or_assoc, @eq_comm _ production, Function.comp_def]

/-- Every root of a sentence has one production. -/
theorem count_root_sentenceProductions {position : Nat} (inside : position < chain.count) :
    ((chain.sentenceProductions number).map Production.name).count (rootIdentifier number position).name = 1 := by
  set roots := (List.range chain.count).map fun (i : Nat) => Name.child Name.rootScope (number + i) with allRoots
  have names : (chain.sentenceProductions number).map Production.name =
      Name.start :: roots ++ (chain.productions Name.wordScope number).map Production.name := by
    rw [sentenceProductions, rootProductions, map_fst_numbering, List.map_append]
    simp [allRoots, Function.comp_def]
  have notStart : Name.start ≠ (rootIdentifier number position).name := (Name.child_root_ne_start _).symm
  have distinct : roots.Nodup := Name.nodup_children _ _ _
  have listed : (rootIdentifier number position).name ∈ roots :=
    List.mem_map_of_mem (List.mem_range.2 inside)
  have noWord : (rootIdentifier number position).name ∉ (chain.productions Name.wordScope number).map Production.name := by
    intro member
    obtain ⟨production, found, named⟩ := List.mem_map.1 member
    exact Name.not_covers_word_of_covers_root (Name.covers_child _ _) (named ▸ (numbered_of_mem_productions found).covers)
  rw [names, List.cons_append, List.count_cons_of_ne notStart, List.count_append,
    List.count_eq_one_of_mem distinct listed, List.count_eq_zero_of_not_mem noWord]

/-- The productions of a sentence are for the start and for the identifiers that head no section. -/
theorem exists_identifier_of_mem_sentenceProductions {production : Production}
    (member : production ∈ chain.sentenceProductions number) : production.name = Name.start ∨
      ∃ identifier ∈ chain.sentenceIdentifiers number, identifier.heads = false ∧ identifier.name = production.name := by
  simp only [mem_sentenceIdentifiers]
  obtain rfl | ⟨position, inside, rfl⟩ | member := mem_sentenceProductions.1 member
  · exact .inl rfl
  · exact .inr ⟨rootIdentifier number position, .inl ⟨position, inside, rfl⟩, rfl, rfl⟩
  · obtain ⟨identifier, found, facts⟩ := exists_identifier_of_mem_productions member
    exact .inr ⟨identifier, .inr found, facts⟩

/-- Every identifier of a sentence that heads no section has a production. -/
theorem exists_production_of_mem_sentenceIdentifiers {identifier : Identifier} (known : chain.IsKnown)
    (proper : chain.IsProper) (member : identifier ∈ chain.sentenceIdentifiers number)
    (plain : identifier.heads = false) :
    ∃ production ∈ chain.sentenceProductions number, production.name = identifier.name := by
  simp only [mem_sentenceProductions]
  obtain ⟨position, inside, rfl⟩ | member := mem_sentenceIdentifiers.1 member
  · exact ⟨_, .inr (.inl ⟨position, inside, rfl⟩), rfl⟩
  · obtain ⟨production, found, named⟩ := exists_production_of_mem_identifiers known proper member plain
    exact ⟨production, .inr (.inr found), named⟩

/-- What stands in a production of a sentence: fixed terminals, identifiers of the sentence and its symbols. -/
theorem mem_symbols_of_mem_sentenceProductions {production : Production} {symbol : String}
    (member : production ∈ chain.sentenceProductions number) (inside : symbol ∈ production.symbols) :
    symbol ∈ Name.fixed ∨ symbol ∈ (chain.sentenceIdentifiers number).map Identifier.name ∨
      symbol ∈ chain.symbols := by
  simp only [sentenceIdentifiers, List.map_append, List.map_map, List.mem_append]
  obtain rfl | ⟨position, small, rfl⟩ | member := mem_sentenceProductions.1 member
  · simp only [List.mem_append, List.mem_cons, List.not_mem_nil, or_false] at inside
    obtain (rfl | root) | rfl := inside
    · exact .inl (by simp [Name.fixed])
    · exact .inr (.inl (.inl root))
    · exact .inl (by simp [Name.fixed])
  · obtain rfl := List.mem_singleton.1 inside
    have listed : number + position ∈ (chain.numbering number).map Prod.fst := by
      rw [map_fst_numbering]
      exact List.mem_map_of_mem (List.mem_range.2 small)
    obtain ⟨entry, numbered, same⟩ := List.mem_map.1 listed
    rw [← same]
    exact .inr (.inl (.inr (child_mem_identifiers numbered)))
  · obtain noise | named | referenced := mem_symbols_of_mem_productions member inside
    · exact .inl (by simp [Name.fixed, noise])
    · exact .inr (.inl (.inr named))
    · exact .inr (.inr referenced)

end Chain

end Utterance
