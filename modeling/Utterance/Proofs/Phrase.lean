import Mathlib.Computability.Language
import Mathlib.Order.CompletePartialOrder
import Utterance.Node.Chain
import Utterance.Pattern.Token

/-!
# Phrases

A pattern as a tree: items one after the other, where an item is an atom or a group of alternatives, with at most one
repeat. The atoms, the labels of groups and the repeats are parameters, so that one tree serves for what is written and
for what is meant. `write` lists the parts in the order they are written. An `Expression` is what is meant: it has a
language, the ways to spell it with tokens, and a chain.
-/

namespace Utterance.Pattern
set_option autoImplicit false
open scoped Computability

mutual

/-- An atom or a group, and its repeat. -/
inductive Item (α γ ρ : Type) where
  | atom (content : α) (repeated : Option ρ)
  | group (label : γ) (inner : Choice α γ ρ) (repeated : Option ρ)

/-- Items one after the other, at least one. -/
inductive Phrase (α γ ρ : Type) where
  | last (item : Item α γ ρ)
  | cons (item : Item α γ ρ) (rest : Phrase α γ ρ)

/-- Alternatives, at least one. -/
inductive Choice (α γ ρ : Type) where
  | last (phrase : Phrase α γ ρ)
  | cons (phrase : Phrase α γ ρ) (rest : Choice α γ ρ)

end

section Write

variable {α γ ρ σ : Type}

/-- The signs that the parts of a phrase are written with. -/
structure Script (α γ ρ σ : Type) where
  atom : α → List σ
  opening : γ → σ
  closing : σ
  bar : σ
  repeated : ρ → List σ

/-- The signs of a repeat, if there is one. -/
def Script.repeat? (script : Script α γ ρ σ) (repeated : Option ρ) : List σ :=
  repeated.elim [] script.repeated

mutual

/-- The signs of an item. -/
def Item.write (script : Script α γ ρ σ) : Item α γ ρ → List σ
  | .atom content repeated => script.atom content ++ script.repeat? repeated
  | .group label inner repeated =>
    script.opening label :: inner.write script ++ script.closing :: script.repeat? repeated

/-- The signs of a phrase. -/
def Phrase.write (script : Script α γ ρ σ) : Phrase α γ ρ → List σ
  | .last item => item.write script
  | .cons item rest => item.write script ++ rest.write script

/-- The signs of alternatives. -/
def Choice.write (script : Script α γ ρ σ) : Choice α γ ρ → List σ
  | .last phrase => phrase.write script
  | .cons phrase rest => phrase.write script ++ script.bar :: rest.write script

end

mutual

/-- The atoms of an item, in order. -/
def Item.atoms : Item α γ ρ → List α
  | .atom content _ => [content]
  | .group _ inner _ => inner.atoms

/-- The atoms of a phrase, in order. -/
def Phrase.atoms : Phrase α γ ρ → List α
  | .last item => item.atoms
  | .cons item rest => item.atoms ++ rest.atoms

/-- The atoms of alternatives, in order. -/
def Choice.atoms : Choice α γ ρ → List α
  | .last phrase => phrase.atoms
  | .cons phrase rest => phrase.atoms ++ rest.atoms

end

mutual

/-- The repeats of an item and in it. -/
def Item.repeats : Item α γ ρ → List ρ
  | .atom _ repeated => repeated.toList
  | .group _ inner repeated => inner.repeats ++ repeated.toList

/-- The repeats in a phrase. -/
def Phrase.repeats : Phrase α γ ρ → List ρ
  | .last item => item.repeats
  | .cons item rest => item.repeats ++ rest.repeats

/-- The repeats in alternatives. -/
def Choice.repeats : Choice α γ ρ → List ρ
  | .last phrase => phrase.repeats
  | .cons phrase rest => phrase.repeats ++ rest.repeats

end

mutual

/-- How many groups are inside of each other in an item, at most. -/
def Item.depth : Item α γ ρ → Nat
  | .atom _ _ => 0
  | .group _ inner _ => inner.depth + 1

/-- How many groups are inside of each other in a phrase, at most. -/
def Phrase.depth : Phrase α γ ρ → Nat
  | .last item => item.depth
  | .cons item rest => max item.depth rest.depth

/-- How many groups are inside of each other in alternatives, at most. -/
def Choice.depth : Choice α γ ρ → Nat
  | .last phrase => phrase.depth
  | .cons phrase rest => max phrase.depth rest.depth

end

/-- What holds of nothing written, of two writings one after the other and of every part holds of all that is written.
-/
structure Script.Keeps (script : Script α γ ρ σ) (property : List σ → Prop) : Prop where
  nil : property []
  append : ∀ {first second : List σ}, property first → property second → property (first ++ second)
  opening : ∀ label, property [script.opening label]
  closing : property [script.closing]
  bar : property [script.bar]

theorem Script.Keeps.repeat? {script : Script α γ ρ σ} {property : List σ → Prop} (keeps : script.Keeps property)
    {repeated : Option ρ} (each : ∀ r ∈ repeated, property (script.repeated r)) :
    property (script.repeat? repeated) := by
  cases repeated with
  | none => exact keeps.nil
  | some r => exact each r rfl

section Keeps

variable {script : Script α γ ρ σ} {property : List σ → Prop}

mutual

theorem Item.write_of_keeps (keeps : script.Keeps property) : (item : Item α γ ρ) →
    (∀ a ∈ item.atoms, property (script.atom a)) → (∀ r ∈ item.repeats, property (script.repeated r)) →
    property (item.write script)
  | .atom content repeated, atoms, repeats => by
    rw [Item.write]
    exact keeps.append (atoms content (by simp [Item.atoms]))
      (keeps.repeat? fun r member => repeats r (by simpa [Item.repeats] using member))
  | .group label inner repeated, atoms, repeats => by
    rw [Item.repeats, List.forall_mem_append] at repeats
    have inside := Choice.write_of_keeps keeps inner atoms repeats.1
    have after : property (script.repeat? repeated) := keeps.repeat? fun r member => repeats.2 r (by simpa using member)
    simpa [Item.write] using
      keeps.append (keeps.opening label) (keeps.append inside (keeps.append keeps.closing after))

theorem Phrase.write_of_keeps (keeps : script.Keeps property) : (phrase : Phrase α γ ρ) →
    (∀ a ∈ phrase.atoms, property (script.atom a)) → (∀ r ∈ phrase.repeats, property (script.repeated r)) →
    property (phrase.write script)
  | .last item, atoms, repeats => Item.write_of_keeps keeps item atoms repeats
  | .cons item rest, atoms, repeats => by
    rw [Phrase.atoms, List.forall_mem_append] at atoms
    rw [Phrase.repeats, List.forall_mem_append] at repeats
    exact keeps.append (Item.write_of_keeps keeps item atoms.1 repeats.1)
      (Phrase.write_of_keeps keeps rest atoms.2 repeats.2)

theorem Choice.write_of_keeps (keeps : script.Keeps property) : (choice : Choice α γ ρ) →
    (∀ a ∈ choice.atoms, property (script.atom a)) → (∀ r ∈ choice.repeats, property (script.repeated r)) →
    property (choice.write script)
  | .last phrase, atoms, repeats => Phrase.write_of_keeps keeps phrase atoms repeats
  | .cons phrase rest, atoms, repeats => by
    rw [Choice.atoms, List.forall_mem_append] at atoms
    rw [Choice.repeats, List.forall_mem_append] at repeats
    simpa [Choice.write] using keeps.append (Phrase.write_of_keeps keeps phrase atoms.1 repeats.1)
      (keeps.append keeps.bar (Choice.write_of_keeps keeps rest atoms.2 repeats.2))

end

end Keeps

section Parts

variable (script : Script α γ ρ σ)

mutual

theorem Item.parts_subset_write : (item : Item α γ ρ) →
    (∀ a ∈ item.atoms, script.atom a ⊆ item.write script) ∧ ∀ r ∈ item.repeats, script.repeated r ⊆ item.write script
  | .atom content repeated => by
    simp only [Item.atoms, Item.repeats, Item.write, List.mem_singleton, forall_eq, Option.mem_toList]
    refine ⟨List.subset_append_left .., ?_⟩
    rintro r rfl
    exact List.subset_append_right ..
  | .group label inner repeated => by
    obtain ⟨atoms, repeats⟩ := Choice.parts_subset_write inner
    have inside : inner.write script ⊆ (Item.group label inner repeated).write script := by
      intro sign member
      simp [Item.write, member]
    refine ⟨fun a member => List.Subset.trans (atoms a member) inside, ?_⟩
    simp only [Item.repeats, List.forall_mem_append, Option.mem_toList]
    refine ⟨fun r member => List.Subset.trans (repeats r member) inside, ?_⟩
    rintro r rfl sign member
    simp [Item.write, Script.repeat?, member]

theorem Phrase.parts_subset_write : (phrase : Phrase α γ ρ) →
    (∀ a ∈ phrase.atoms, script.atom a ⊆ phrase.write script) ∧
      ∀ r ∈ phrase.repeats, script.repeated r ⊆ phrase.write script
  | .last item => Item.parts_subset_write item
  | .cons item rest => by
    obtain ⟨atoms, repeats⟩ := Item.parts_subset_write item
    obtain ⟨others, moreRepeats⟩ := Phrase.parts_subset_write rest
    simp only [Phrase.atoms, Phrase.repeats, Phrase.write, List.forall_mem_append]
    exact ⟨⟨fun a member => List.subset_append_of_subset_left _ (atoms a member),
        fun a member => List.subset_append_of_subset_right _ (others a member)⟩,
      fun r member => List.subset_append_of_subset_left _ (repeats r member),
      fun r member => List.subset_append_of_subset_right _ (moreRepeats r member)⟩

theorem Choice.parts_subset_write : (choice : Choice α γ ρ) →
    (∀ a ∈ choice.atoms, script.atom a ⊆ choice.write script) ∧
      ∀ r ∈ choice.repeats, script.repeated r ⊆ choice.write script
  | .last phrase => Phrase.parts_subset_write phrase
  | .cons phrase rest => by
    obtain ⟨atoms, repeats⟩ := Phrase.parts_subset_write phrase
    obtain ⟨others, moreRepeats⟩ := Choice.parts_subset_write rest
    simp only [Choice.atoms, Choice.repeats, Choice.write, List.forall_mem_append]
    have after : rest.write script ⊆ script.bar :: rest.write script := List.subset_cons_self ..
    exact ⟨⟨fun a member => List.subset_append_of_subset_left _ (atoms a member),
        fun a member => List.subset_append_of_subset_right _ (List.Subset.trans (others a member) after)⟩,
      fun r member => List.subset_append_of_subset_left _ (repeats r member),
      fun r member => List.subset_append_of_subset_right _ (List.Subset.trans (moreRepeats r member) after)⟩

end

/-- If all signs but those of atoms and repeats have a property, then all signs have it exactly if those do. -/
theorem Phrase.forall_mem_write (property : σ → Prop) (phrase : Phrase α γ ρ)
    (opening : ∀ label, property (script.opening label)) (closing : property script.closing)
    (bar : property script.bar) : (∀ sign ∈ phrase.write script, property sign) ↔
      (∀ a ∈ phrase.atoms, ∀ sign ∈ script.atom a, property sign) ∧
        ∀ r ∈ phrase.repeats, ∀ sign ∈ script.repeated r, property sign := by
  constructor
  · intro all
    obtain ⟨atoms, repeats⟩ := Phrase.parts_subset_write script phrase
    exact ⟨fun a member sign inside => all sign (atoms a member inside),
      fun r member sign inside => all sign (repeats r member inside)⟩
  · rintro ⟨atoms, repeats⟩
    have keeps : script.Keeps fun signs => ∀ sign ∈ signs, property sign :=
      { nil := by simp
        append := fun one other => List.forall_mem_append.2 ⟨one, other⟩
        opening := fun label => by simpa using opening label
        closing := by simpa using closing
        bar := by simpa using bar }
    exact Phrase.write_of_keeps keeps phrase atoms repeats

end Parts

/-- The script with every sign changed. -/
def Script.mapSigns {τ : Type} (change : σ → τ) (script : Script α γ ρ σ) : Script α γ ρ τ where
  atom content := (script.atom content).map change
  opening label := change (script.opening label)
  closing := change script.closing
  bar := change script.bar
  repeated r := (script.repeated r).map change

section MapSigns

variable {τ : Type} (change : σ → τ) (script : Script α γ ρ σ)

theorem Script.map_repeat? (repeated : Option ρ) :
    (script.repeat? repeated).map change = (script.mapSigns change).repeat? repeated := by
  cases repeated <;> rfl

mutual

theorem Item.map_write : (item : Item α γ ρ) → (item.write script).map change = item.write (script.mapSigns change)
  | .atom content repeated => by
    rw [Item.write, Item.write, List.map_append, Script.map_repeat?, Script.mapSigns]
  | .group label inner repeated => by
    simp only [Item.write, List.map_append, List.map_cons, Script.map_repeat?, Choice.map_write inner]
    rfl

theorem Phrase.map_write : (phrase : Phrase α γ ρ) →
    (phrase.write script).map change = phrase.write (script.mapSigns change)
  | .last item => Item.map_write item
  | .cons item rest => by
    rw [Phrase.write, Phrase.write, List.map_append, Item.map_write item, Phrase.map_write rest]

theorem Choice.map_write : (choice : Choice α γ ρ) →
    (choice.write script).map change = choice.write (script.mapSigns change)
  | .last phrase => Phrase.map_write phrase
  | .cons phrase rest => by
    simp only [Choice.write, List.map_append, List.map_cons, Phrase.map_write phrase, Choice.map_write rest]
    rfl

end

end MapSigns

end Write

section Map

variable {α γ ρ α' γ' ρ' : Type} (atom : α → α') (label : γ → γ') (repeated : ρ → ρ')

mutual

/-- The item with other atoms, labels and repeats. -/
def Item.map : Item α γ ρ → Item α' γ' ρ'
  | .atom content r => .atom (atom content) (r.map repeated)
  | .group l inner r => .group (label l) inner.map (r.map repeated)

/-- The phrase with other atoms, labels and repeats. -/
def Phrase.map : Phrase α γ ρ → Phrase α' γ' ρ'
  | .last item => .last item.map
  | .cons item rest => .cons item.map rest.map

/-- The alternatives with other atoms, labels and repeats. -/
def Choice.map : Choice α γ ρ → Choice α' γ' ρ'
  | .last phrase => .last phrase.map
  | .cons phrase rest => .cons phrase.map rest.map

end

mutual

theorem Item.atoms_map : (item : Item α γ ρ) → (item.map atom label repeated).atoms = item.atoms.map atom
  | .atom _ _ => rfl
  | .group _ inner _ => Choice.atoms_map inner

theorem Phrase.atoms_map : (phrase : Phrase α γ ρ) → (phrase.map atom label repeated).atoms = phrase.atoms.map atom
  | .last item => Item.atoms_map item
  | .cons item rest => by
    rw [Phrase.map, Phrase.atoms, Phrase.atoms, List.map_append, Item.atoms_map item, Phrase.atoms_map rest]

theorem Choice.atoms_map : (choice : Choice α γ ρ) → (choice.map atom label repeated).atoms = choice.atoms.map atom
  | .last phrase => Phrase.atoms_map phrase
  | .cons phrase rest => by
    rw [Choice.map, Choice.atoms, Choice.atoms, List.map_append, Phrase.atoms_map phrase, Choice.atoms_map rest]

end

mutual

theorem Item.repeats_map : (item : Item α γ ρ) → (item.map atom label repeated).repeats = item.repeats.map repeated
  | .atom _ r => by cases r <;> rfl
  | .group _ inner r => by
    rw [Item.map, Item.repeats, Item.repeats, List.map_append, Choice.repeats_map inner]
    cases r <;> rfl

theorem Phrase.repeats_map : (phrase : Phrase α γ ρ) →
    (phrase.map atom label repeated).repeats = phrase.repeats.map repeated
  | .last item => Item.repeats_map item
  | .cons item rest => by
    rw [Phrase.map, Phrase.repeats, Phrase.repeats, List.map_append, Item.repeats_map item, Phrase.repeats_map rest]

theorem Choice.repeats_map : (choice : Choice α γ ρ) →
    (choice.map atom label repeated).repeats = choice.repeats.map repeated
  | .last phrase => Phrase.repeats_map phrase
  | .cons phrase rest => by
    rw [Choice.map, Choice.repeats, Choice.repeats, List.map_append, Phrase.repeats_map phrase,
      Choice.repeats_map rest]

end

mutual

theorem Item.depth_map : (item : Item α γ ρ) → (item.map atom label repeated).depth = item.depth
  | .atom _ _ => rfl
  | .group _ inner _ => congrArg (· + 1) (Choice.depth_map inner)

theorem Phrase.depth_map : (phrase : Phrase α γ ρ) → (phrase.map atom label repeated).depth = phrase.depth
  | .last item => Item.depth_map item
  | .cons item rest => by rw [Phrase.map, Phrase.depth, Phrase.depth, Item.depth_map item, Phrase.depth_map rest]

theorem Choice.depth_map : (choice : Choice α γ ρ) → (choice.map atom label repeated).depth = choice.depth
  | .last phrase => Phrase.depth_map phrase
  | .cons phrase rest => by
    rw [Choice.map, Choice.depth, Choice.depth, Phrase.depth_map phrase, Choice.depth_map rest]

end

end Map

/-! ## Expressions -/

/-- A literal or a symbol. -/
inductive Atom where
  | literal (text : String)
  | symbol (name : String)
  deriving DecidableEq

/-- How often an item is said. -/
inductive Repeat where
  | range (least most : Nat)
  | exactly (count : Nat)
  | oneOrMore
  | zeroOrMore
  | optional
  deriving DecidableEq

/-- What a pattern means. -/
abbrev Expression := Phrase Atom Unit Repeat

/-- The leaf of an atom. -/
def Atom.leaf : Atom → Leaf
  | .literal text => .literal text
  | .symbol name => .symbol name

/-- The languages of regular expressions: what is said when something is repeated. -/
def Repeat.language (once : Language Leaf) : Repeat → Language Leaf
  | .range least most => ⨆ count : Nat, ⨆ _ : least ≤ count ∧ count ≤ most, once ^ count
  | .exactly count => once ^ count
  | .oneOrMore => once * once∗
  | .zeroOrMore => once∗
  | .optional => 1 + once

mutual

/-- The language of an item. -/
def Item.language : Item Atom Unit Repeat → Language Leaf
  | .atom content repeated => repeated.elim {[content.leaf]} (Repeat.language {[content.leaf]})
  | .group _ inner repeated => repeated.elim inner.language (Repeat.language inner.language)

/-- The language of a phrase: what its items say, one after the other. -/
def Phrase.language : Phrase Atom Unit Repeat → Language Leaf
  | .last item => item.language
  | .cons item rest => item.language * rest.language

/-- The language of alternatives: what any of them says. -/
def Choice.language : Choice Atom Unit Repeat → Language Leaf
  | .last phrase => phrase.language
  | .cons phrase rest => phrase.language + rest.language

end

/-- The repetition that a repeat stands for, an item without one being said once. -/
def Repeat.repetition : Option Repeat → Repetition
  | none => .once
  | some (.range least most) => .range least most
  | some (.exactly count) => .exactly count
  | some .oneOrMore => .oneOrMore
  | some .zeroOrMore => .zeroOrMore
  | some .optional => .optional

mutual

/-- The item as the first of a chain. -/
def Item.chain : Item Atom Unit Repeat → (closes : Bool) → (next : Chain) → Chain
  | .atom content repeated, closes, next => .leaf content.leaf (Repeat.repetition repeated) closes next
  | .group _ inner repeated, closes, next => .group inner.chain (Repeat.repetition repeated) closes next

/-- The items of a phrase as the first of a chain; the last of them may end an alternative. -/
def Phrase.chain : Phrase Atom Unit Repeat → (closes : Bool) → (next : Chain) → Chain
  | .last item, closes, next => item.chain closes next
  | .cons item rest, closes, next => item.chain false (rest.chain closes next)

/-- The items of all alternatives; the last one of each ends it, but for the last alternative. -/
def Choice.chain : Choice Atom Unit Repeat → Chain
  | .last phrase => phrase.chain false .nil
  | .cons phrase rest => phrase.chain true rest.chain

end

end Utterance.Pattern
