import Utterance.Proofs.Written

/-!
# The layout of a table

The nodes of a pattern lie in the order in which they are written, a group before what is in it. `Phrase.run_steps` says
that building lays them out so, node by node with all links, and `Phrase.unfold_nodes` that what is laid out so
unfolds into the chain of what the pattern means.
-/

namespace Utterance.Pattern
set_option autoImplicit false

/-- The building step of a mark, whether or not the mark is allowed. -/
def Mark.built (source : Source) : Mark → BuildStep
  | .literal spelling column =>
    .literal (String.ofList (literalText spelling)) (some (source.span column spelling.length))
  | .symbol name column => .symbol (String.ofList name) (some (source.span column name.length))
  | .openGroup column => .enterGroup (some (source.point column))
  | .closeGroup => .exitGroup
  | .bar => .alternative
  | .zeroOrMore => .repeated .zeroOrMore
  | .oneOrMore => .repeated .oneOrMore
  | .optional => .repeated .optional
  | .exactly count => .repeated (.exactly (digitsValue count.digits))
  | .range least most => .repeated (.range (digitsValue least.digits) (digitsValue most.digits))

/-- Written patterns as building steps. -/
def stepScript (source : Source) : Script WrittenAtom Nat WrittenRepeat BuildStep :=
  markScript.mapSigns (Mark.built source)

section Size

variable {α γ ρ : Type}

mutual

/-- The number of nodes of an item. -/
def Item.size : Item α γ ρ → Nat
  | .atom _ _ => 1
  | .group _ inner _ => inner.size + 1

/-- The number of nodes of a phrase. -/
def Phrase.size : Phrase α γ ρ → Nat
  | .last item => item.size
  | .cons item rest => item.size + rest.size

/-- The number of nodes of alternatives. -/
def Choice.size : Choice α γ ρ → Nat
  | .last phrase => phrase.size
  | .cons phrase rest => phrase.size + rest.size

end

end Size

/-- The node of an atom, without repetition and links. -/
def WrittenAtom.node (source : Source) : WrittenAtom → Node
  | .literal spelling column =>
    { content := String.ofList (literalText spelling), kind := .literal,
      location := some (source.span column spelling.length) }
  | .symbol name column =>
    { content := String.ofList name, kind := .symbol, location := some (source.span column name.length) }

/-- The node of a group, without repetition and links but the one to what is in it. -/
def groupNode (location : Option Location) (child : Nat) : Node :=
  { child := some child, location }

/-- The node with its repetition and its place among the others. -/
def placed (node : Node) (repetition : Repetition) (parent : Option Nat) (closes : Bool) (next : Option Nat) : Node :=
  { node with repetition, parent, closesAlternative := closes, next }

/-- The repetition of a written item. -/
def WrittenRepeat.repetition (repeated : Option WrittenRepeat) : Repetition :=
  Repeat.repetition (repeated.map WrittenRepeat.meaning)

mutual

/-- The nodes of an item that starts at an index. -/
def Item.nodes (source : Source) : Item WrittenAtom Nat WrittenRepeat → (index : Nat) → (parent : Option Nat) →
    (closes : Bool) → (next : Option Nat) → List Node
  | .atom content repeated, _, parent, closes, next =>
    [placed (content.node source) (WrittenRepeat.repetition repeated) parent closes next]
  | .group column inner repeated, index, parent, closes, next =>
    placed (groupNode (some (source.point column)) (index + 1)) (WrittenRepeat.repetition repeated) parent closes next ::
      inner.nodes source (index + 1) (some index)

/-- The nodes of a phrase that starts at an index; the flag and the link after it are those of its last item. -/
def Phrase.nodes (source : Source) : Phrase WrittenAtom Nat WrittenRepeat → (index : Nat) → (parent : Option Nat) →
    (closes : Bool) → (next : Option Nat) → List Node
  | .last item, index, parent, closes, next => item.nodes source index parent closes next
  | .cons item rest, index, parent, closes, next =>
    item.nodes source index parent false (some (index + item.size)) ++
      rest.nodes source (index + item.size) parent closes next

/-- The nodes of alternatives that start at an index. -/
def Choice.nodes (source : Source) : Choice WrittenAtom Nat WrittenRepeat → (index : Nat) → (parent : Option Nat) →
    List Node
  | .last phrase, index, parent => phrase.nodes source index parent false none
  | .cons phrase rest, index, parent =>
    phrase.nodes source index parent true (some (index + phrase.size)) ++
      rest.nodes source (index + phrase.size) parent

end

section Length

variable (source : Source)

mutual

@[simp] theorem Item.length_nodes : (item : Item WrittenAtom Nat WrittenRepeat) → (index : Nat) →
    (parent : Option Nat) → (closes : Bool) → (next : Option Nat) →
    (item.nodes source index parent closes next).length = item.size
  | .atom _ _, _, _, _, _ => rfl
  | .group _ inner _, index, _, _, _ => by
    rw [Item.nodes, List.length_cons, Choice.length_nodes inner, Item.size]

@[simp] theorem Phrase.length_nodes : (phrase : Phrase WrittenAtom Nat WrittenRepeat) → (index : Nat) →
    (parent : Option Nat) → (closes : Bool) → (next : Option Nat) →
    (phrase.nodes source index parent closes next).length = phrase.size
  | .last item, _, _, _, _ => Item.length_nodes item ..
  | .cons item rest, _, _, _, _ => by
    rw [Phrase.nodes, List.length_append, Item.length_nodes item, Phrase.length_nodes rest, Phrase.size]

@[simp] theorem Choice.length_nodes : (choice : Choice WrittenAtom Nat WrittenRepeat) → (index : Nat) →
    (parent : Option Nat) → (choice.nodes source index parent).length = choice.size
  | .last phrase, _, _ => Phrase.length_nodes phrase ..
  | .cons phrase rest, _, _ => by
    rw [Choice.nodes, List.length_append, Phrase.length_nodes phrase, Choice.length_nodes rest, Choice.size]

end

end Length

/-! ## Building -/

theorem modify_append_length {α : Type} (before after : List α) (a : α) (change : α → α) :
    (before ++ a :: after).modify before.length change = before ++ change a :: after := by
  induction before with
  | nil => rfl
  | cons b before ih => simpa using ih

/-- A node that is still to be filled. -/
def placeholder (parent : Option Nat) : Node := { parent }

/-- A builder with the cursor after `before`. -/
def builderAt (before : List Node) (node : Node) (after : List Node) (groups : List Nat) : Builder :=
  ⟨(before ++ node :: after).toArray, before.length, groups⟩

section BuilderAt

variable (before after : List Node) (node : Node) (groups : List Nat)

theorem modifyCursor_builderAt (change : Node → Node) :
    (builderAt before node after groups).modifyCursor change = builderAt before (change node) after groups := by
  simp [builderAt, Builder.modifyCursor, List.modify_toArray, modify_append_length]

theorem cursor_builderAt :
    (builderAt before node after groups).nodes[(builderAt before node after groups).cursor]? = some node := by
  simp [builderAt]

theorem advance_builderAt_of_occupied {index : Nat} (occupied : node.isOccupied = true)
    (size : (before ++ node :: after).length = index) :
    (builderAt before node after groups).advance =
      builderAt (before ++ { node with next := some index } :: after) (placeholder groups.head?) [] groups := by
  rw [Builder.advance, cursor_builderAt]
  subst size
  simp only [occupied, if_true, modifyCursor_builderAt]
  simp [builderAt, placeholder]

theorem advance_builderAt_placeholder (parent : Option Nat) :
    (builderAt before (placeholder parent) after groups).advance =
      builderAt before (placeholder parent) after groups := by
  rw [Builder.advance, cursor_builderAt]
  rfl

theorem run_repeat? (source : Source) (repeated : Option WrittenRepeat) (parent : Option Nat) (steps : List BuildStep) :
    (builderAt before (placed node .once parent false none) after groups).run
        ((stepScript source).repeat? repeated ++ steps) =
      (builderAt before (placed node (WrittenRepeat.repetition repeated) parent false none) after groups).run steps := by
  cases repeated with
  | none => rfl
  | some r =>
    have step : (stepScript source).repeat? (some r) = [.repeated (WrittenRepeat.repetition (some r))] := by
      cases r <;> rfl
    rw [step, List.singleton_append, Builder.run, Builder.apply, modifyCursor_builderAt]
    rfl

end BuilderAt

/-- The builder writes next into a fresh node after these. -/
def Ready (builder : Builder) (before : List Node) (groups : List Nat) : Prop :=
  builder.advance = builderAt before (placeholder groups.head?) [] groups

/-- The cursor is on the last item of a layout, which is complete but for the link to what follows. -/
def RestsOn (builder : Builder) (layout : Bool → Option Nat → List Node) (closes : Bool) (groups : List Nat) : Prop :=
  ∃ before node repetition after, Node.isOccupied node = true ∧
    (∀ closes next, layout closes next = before ++ placed node repetition groups.head? closes next :: after) ∧
    builder = builderAt before (placed node repetition groups.head? closes none) after groups

section Ready

variable {builder : Builder} {before : List Node} {groups : List Nat} {layout : Bool → Option Nat → List Node}

theorem ready_empty : Ready Builder.empty [] [] := rfl

theorem RestsOn.ready {closes : Bool} (rests : RestsOn builder layout closes groups) (index : Nat)
    (size : (layout closes none).length = index) : Ready builder (layout closes (some index)) groups := by
  obtain ⟨before, node, repetition, after, occupied, layouts, rfl⟩ := rests
  rw [layouts] at size
  rw [layouts]
  exact advance_builderAt_of_occupied before after _ groups occupied size

theorem RestsOn.alternative (rests : RestsOn builder layout false groups) :
    ∃ after, builder.apply .alternative = .ok after ∧ RestsOn after layout true groups := by
  obtain ⟨before, node, repetition, after, occupied, layouts, rfl⟩ := rests
  refine ⟨_, rfl, before, node, repetition, after, occupied, layouts, ?_⟩
  rw [modifyCursor_builderAt]
  rfl

theorem Ready.apply_atom (ready : Ready builder before groups) (source : Source) (content : WrittenAtom) :
    builder.apply (content.mark.built source) =
      .ok (builderAt before (placed (content.node source) .once groups.head? false none) [] groups) := by
  cases content with
  | literal spelling column =>
    rw [WrittenAtom.mark, Mark.built, Builder.apply, Builder.putLeaf, ready, modifyCursor_builderAt]
    rfl
  | symbol name column =>
    rw [WrittenAtom.mark, Mark.built, Builder.apply, Builder.putLeaf, ready, modifyCursor_builderAt]
    rfl

theorem Ready.enterGroup (ready : Ready builder before groups) (location : Option Location) :
    Ready (builder.enterGroup location)
      (before ++ [placed (groupNode location (before.length + 1)) .once groups.head? false none])
      (before.length :: groups) := by
  have entered : builder.enterGroup location =
      builderAt (before ++ [placed (groupNode location (before.length + 1)) .once groups.head? false none])
        (placeholder (some before.length)) [] (before.length :: groups) := by
    simp only [Builder.enterGroup, show builder.advance = _ from ready, modifyCursor_builderAt]
    simp [builderAt, placeholder, placed, groupNode]
  rw [entered]
  exact advance_builderAt_placeholder ..

end Ready

section Run

variable (source : Source)

mutual

theorem Item.run_steps : (item : Item WrittenAtom Nat WrittenRepeat) → {builder : Builder} → {before : List Node} →
    {groups : List Nat} → (∀ a ∈ item.atoms, (a.node source).content ≠ "") → Ready builder before groups →
    ∃ done, RestsOn done (fun closes next => before ++ item.nodes source before.length groups.head? closes next)
        false groups ∧
      ∀ steps, builder.run (item.write (stepScript source) ++ steps) = done.run steps
  | .atom content repeated, builder, before, groups, texts, ready => by
    have text := texts content (by simp [Item.atoms])
    have occupied : (content.node source).isOccupied = true := by
      simp [Node.isOccupied, Node.isPlaceholder, text]
    refine ⟨_, ⟨before, content.node source, _, [], occupied, fun closes next => rfl, rfl⟩, fun steps => ?_⟩
    have signs : (Item.atom content repeated).write (stepScript source) ++ steps =
        content.mark.built source :: ((stepScript source).repeat? repeated ++ steps) := rfl
    rw [signs, Builder.run, ready.apply_atom]
    exact run_repeat? before [] _ groups source repeated groups.head? steps
  | .group column inner repeated, builder, before, groups, texts, ready => by
    obtain ⟨cursor, inside⟩ := Choice.run_steps inner texts (ready.enterGroup (some (source.point column)))
    refine ⟨_, ⟨before, groupNode (some (source.point column)) (before.length + 1), _, _, rfl, fun closes next => rfl,
      rfl⟩, fun steps => ?_⟩
    have signs : (Item.group column inner repeated).write (stepScript source) ++ steps =
        .enterGroup (some (source.point column)) ::
          (inner.write (stepScript source) ++ .exitGroup :: ((stepScript source).repeat? repeated ++ steps)) := by
      simp only [Item.write, List.cons_append, List.append_assoc]
      rfl
    have after := run_repeat? before (inner.nodes source (before.length + 1) (some before.length))
      (groupNode (some (source.point column)) (before.length + 1)) groups source repeated groups.head? steps
    rw [signs, Builder.run]
    refine (inside _).trans (Eq.trans ?_ after)
    simp [Builder.run, Builder.apply, Builder.exitGroup, builderAt, Except.bind]

theorem Phrase.run_steps : (phrase : Phrase WrittenAtom Nat WrittenRepeat) → {builder : Builder} →
    {before : List Node} → {groups : List Nat} → (∀ a ∈ phrase.atoms, (a.node source).content ≠ "") →
    Ready builder before groups →
    ∃ done, RestsOn done (fun closes next => before ++ phrase.nodes source before.length groups.head? closes next)
        false groups ∧
      ∀ steps, builder.run (phrase.write (stepScript source) ++ steps) = done.run steps
  | .last item, _, _, _, texts, ready => Item.run_steps item texts ready
  | .cons item rest, builder, before, groups, texts, ready => by
    rw [Phrase.atoms, List.forall_mem_append] at texts
    obtain ⟨middle, rests, first⟩ := Item.run_steps item texts.1 ready
    have next := rests.ready (before.length + item.size) (by simp)
    obtain ⟨done, finished, second⟩ := Phrase.run_steps rest texts.2 next
    refine ⟨done, ?_, fun steps => ?_⟩
    · simpa [Phrase.nodes] using finished
    · rw [Phrase.write, List.append_assoc, first, second]

theorem Choice.run_steps : (choice : Choice WrittenAtom Nat WrittenRepeat) → {builder : Builder} →
    {before : List Node} → {groups : List Nat} → (∀ a ∈ choice.atoms, (a.node source).content ≠ "") →
    Ready builder before groups →
    ∃ cursor, ∀ steps, builder.run (choice.write (stepScript source) ++ steps) =
      Builder.run ⟨(before ++ choice.nodes source before.length groups.head?).toArray, cursor, groups⟩ steps
  | .last phrase, _, before, groups, texts, ready => by
    obtain ⟨_, ⟨first, node, _, after, _, layouts, rfl⟩, run⟩ := Phrase.run_steps phrase texts ready
    refine ⟨first.length, fun steps => ?_⟩
    rw [Choice.write, run, Choice.nodes, show before ++ phrase.nodes source before.length groups.head? false none = _ from
      layouts false none]
    rfl
  | .cons phrase rest, builder, before, groups, texts, ready => by
    rw [Choice.atoms, List.forall_mem_append] at texts
    obtain ⟨middle, rests, first⟩ := Phrase.run_steps phrase texts.1 ready
    obtain ⟨closed, alternative, rests⟩ := rests.alternative
    have next := rests.ready (before.length + phrase.size) (by simp)
    obtain ⟨cursor, second⟩ := Choice.run_steps rest texts.2 next
    refine ⟨cursor, fun steps => ?_⟩
    have bar : (stepScript source).bar = .alternative := rfl
    rw [Choice.write, List.append_assoc, first, List.cons_append, Builder.run, bar, alternative]
    exact (second steps).trans (by simp [Choice.nodes])

end

end Run

/-! ## Unfolding -/

/-- The table holds these nodes from an index on. -/
def HoldsAt (table : NodeTable) (index : Nat) (nodes : List Node) : Prop :=
  ∃ before after, table.nodes.toList = before ++ nodes ++ after ∧ before.length = index

theorem HoldsAt.append {table : NodeTable} {index : Nat} {first second : List Node}
    (holds : HoldsAt table index (first ++ second)) :
    HoldsAt table index first ∧ HoldsAt table (index + first.length) second := by
  obtain ⟨before, after, same, rfl⟩ := holds
  exact ⟨⟨before, second ++ after, by simp [same], rfl⟩, ⟨before ++ first, after, by simp [same], by simp⟩⟩

theorem HoldsAt.head {table : NodeTable} {index : Nat} {node : Node} {rest : List Node}
    (holds : HoldsAt table index (node :: rest)) : table.nodes[index]? = some node := by
  obtain ⟨before, after, same, rfl⟩ := holds
  rw [← Array.getElem?_toList, same]
  simp

theorem HoldsAt.tail {table : NodeTable} {index : Nat} {node : Node} {rest : List Node}
    (holds : HoldsAt table index (node :: rest)) : HoldsAt table (index + 1) rest := by
  have whole : HoldsAt table index ([node] ++ rest) := holds
  exact whole.append.2

/-- What a link unfolds into with enough fuel. -/
def UnfoldsTo (table : NodeTable) (need : Nat) (link : Option Nat) (chain : Chain) : Prop :=
  ∀ fuel, need ≤ fuel → table.unfold fuel link = chain

theorem unfoldsTo_none (table : NodeTable) : UnfoldsTo table 0 none .nil := by
  intro fuel _
  rw [NodeTable.unfold]

theorem unfoldsTo_leaf {table : NodeTable} {index need : Nat} {node : Node} {chain : Chain}
    (found : table.nodes[index]? = some node) (noChild : node.child = none) (content : node.content ≠ "")
    (after : UnfoldsTo table need node.next chain) :
    UnfoldsTo table (need + 1) (some index) (.leaf node.leaf node.repetition node.closesAlternative chain) := by
  intro fuel enough
  obtain ⟨fuel, rfl⟩ := Nat.exists_eq_add_of_le' (Nat.le_of_add_left_le enough)
  simp [NodeTable.unfold, found, Node.isPlaceholder, Node.isGroup, noChild, content,
    after fuel (Nat.le_of_add_le_add_right enough)]

theorem unfoldsTo_group {table : NodeTable} {index child need inside : Nat} {node : Node} {chain inner : Chain}
    (found : table.nodes[index]? = some node) (isChild : node.child = some child)
    (within : UnfoldsTo table inside (some child) inner) (after : UnfoldsTo table need node.next chain) :
    UnfoldsTo table (inside + 1 + need) (some index)
      (.group inner node.repetition node.closesAlternative chain) := by
  intro fuel enough
  obtain ⟨fuel, rfl⟩ := Nat.exists_eq_add_of_le' (show 1 ≤ fuel by omega)
  simp [NodeTable.unfold, found, Node.isPlaceholder, Node.isGroup, isChild, within fuel (by omega),
    after fuel (by omega)]

section Unfold

variable (source : Source) {table : NodeTable}

mutual

theorem Item.unfold_nodes : (item : Item WrittenAtom Nat WrittenRepeat) → {index need : Nat} → {parent : Option Nat} →
    {closes : Bool} → {next : Option Nat} → {chain : Chain} → (∀ a ∈ item.atoms, (a.node source).content ≠ "") →
    HoldsAt table index (item.nodes source index parent closes next) → UnfoldsTo table need next chain →
    UnfoldsTo table (item.size + need) (some index) (item.meaning.chain closes chain)
  | .atom content repeated, index, need, parent, closes, next, chain, texts, holds, after => by
    have text := texts content (by simp [Item.atoms])
    have found : table.nodes[index]? =
        some (placed (content.node source) (WrittenRepeat.repetition repeated) parent closes next) := holds.head
    have leaf := unfoldsTo_leaf found (by cases content <;> rfl) text after
    rw [Nat.add_comm] at leaf
    cases content <;> exact leaf
  | .group column inner repeated, index, need, parent, closes, next, chain, texts, holds, after =>
    unfoldsTo_group holds.head rfl (Choice.unfold_nodes inner texts holds.tail) after

theorem Phrase.unfold_nodes : (phrase : Phrase WrittenAtom Nat WrittenRepeat) → {index need : Nat} →
    {parent : Option Nat} → {closes : Bool} → {next : Option Nat} → {chain : Chain} →
    (∀ a ∈ phrase.atoms, (a.node source).content ≠ "") →
    HoldsAt table index (phrase.nodes source index parent closes next) → UnfoldsTo table need next chain →
    UnfoldsTo table (phrase.size + need) (some index) (phrase.meaning.chain closes chain)
  | .last item, _, _, _, _, _, _, texts, holds, after => Item.unfold_nodes item texts holds after
  | .cons item rest, _, _, _, _, _, _, texts, holds, after => by
    rw [Phrase.atoms, List.forall_mem_append] at texts
    obtain ⟨first, second⟩ := holds.append
    rw [Item.length_nodes] at second
    have others := Phrase.unfold_nodes rest texts.2 second after
    rw [Phrase.size, Nat.add_assoc]
    exact Item.unfold_nodes item texts.1 first others

theorem Choice.unfold_nodes : (choice : Choice WrittenAtom Nat WrittenRepeat) → {index : Nat} →
    {parent : Option Nat} → (∀ a ∈ choice.atoms, (a.node source).content ≠ "") →
    HoldsAt table index (choice.nodes source index parent) →
    UnfoldsTo table choice.size (some index) choice.meaning.chain
  | .last phrase, _, _, texts, holds => by
    have ends : UnfoldsTo table 0 none .nil := unfoldsTo_none table
    exact Phrase.unfold_nodes phrase texts holds ends
  | .cons phrase rest, _, _, texts, holds => by
    rw [Choice.atoms, List.forall_mem_append] at texts
    obtain ⟨first, second⟩ := holds.append
    rw [Phrase.length_nodes] at second
    exact Phrase.unfold_nodes phrase texts.1 first (Choice.unfold_nodes rest texts.2 second)

end

end Unfold

/-! ## The table of a pattern -/

/-- The table of a written pattern. -/
def Written.table (source : Source) (written : Written) : NodeTable :=
  ⟨(written.nodes source 0 none false none).toArray, some 0⟩

theorem build_write {source : Source} {written : Written}
    (texts : ∀ a ∈ written.atoms, (a.node source).content ≠ "") :
    build (written.write (stepScript source)) = .ok (Written.table source written) := by
  obtain ⟨_, ⟨before, node, _, after, _, layouts, rfl⟩, run⟩ := Phrase.run_steps source written texts ready_empty
  have nodes : written.nodes source 0 none false none = _ := layouts false none
  have ran := run []
  rw [List.append_nil] at ran
  rw [build, ran, Written.table, nodes]
  rfl

theorem chain_table {source : Source} {written : Written}
    (texts : ∀ a ∈ written.atoms, (a.node source).content ≠ "") :
    (Written.table source written).chain = written.meaning.chain false .nil := by
  have holds : HoldsAt (Written.table source written) 0 (written.nodes source 0 none false none) :=
    ⟨[], [], by simp [Written.table], rfl⟩
  have unfolds := Phrase.unfold_nodes source written texts holds (unfoldsTo_none _)
  exact unfolds _ (by simp [Written.table])

end Utterance.Pattern
