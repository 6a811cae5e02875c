import Utterance.Proofs.Basic
import Utterance.Proofs.Layout

/-!
# How a builder's nodes grow

A builder may be called in any order, also in orders that no pattern asks for. Its nodes only change in two ways: the
content of the cursor's node is replaced, or a node is put at the end that the cursor's node is made to refer to
(`grow`). `Sound` is what both keep: links lead forward to nodes of the right parent, every node but the first is the
target of one link, and the open groups are the way out from the cursor. No link that is there is overwritten
(`Extends`).
-/

namespace Utterance
set_option autoImplicit false

namespace NodeTable

/-- The targets of all links to children and siblings. -/
def targets (table : NodeTable) : List Nat :=
  table.nodes.toList.flatMap fun node => node.child.toList ++ node.next.toList

/-- A node links to another one, which should then have the given parent. -/
inductive Links (table : NodeTable) (i j : Nat) : (parent : Option Nat) → Prop where
  | child {node : Node} (found : table.nodes[i]? = some node) (link : node.child = some j) : Links table i j (some i)
  | next {node : Node} (found : table.nodes[i]? = some node) (link : node.next = some j) : Links table i j node.parent

end NodeTable

/-- A call of a builder: one step, or asking for the finished table. -/
inductive BuildCall where
  | step (step : BuildStep)
  | finish

namespace Builder

/-- The builder after a call that succeeds. Asking for the table leaves the builder as it is. -/
def call (builder : Builder) : BuildCall → Except BuildFault Builder
  | .step step => builder.apply step
  | .finish => builder.finish.map fun _ => builder

/-- The builder after a call; one that fails changes nothing. -/
def after (builder : Builder) (call : BuildCall) : Builder :=
  match builder.call call with
  | .ok next => next
  | .error _ => builder

/-- The builder after calls one after the other. -/
def replay (builder : Builder) (calls : List BuildCall) : Builder :=
  calls.foldl after builder

/-- All nodes are still there, with the same parent and with every link that they had. -/
def Extends (before after : Builder) : Prop :=
  ∀ (i : Nat) (node : Node), before.nodes[i]? = some node →
    ∃ later : Node, after.nodes[i]? = some later ∧ later.parent = node.parent ∧
      (∀ j ∈ node.child, later.child = some j) ∧ ∀ j ∈ node.next, later.next = some j

/-- The nodes on the way out from a node: each is the last of its chain and has the one after it for its parent. -/
def Spine (nodes : Array Node) : List Nat → Prop
  | [] => True
  | i :: outer => (∃ node, nodes[i]? = some node ∧ node.next = none ∧ node.parent = outer.head?) ∧ Spine nodes outer

/-- What every call keeps. -/
structure Sound (builder : Builder) : Prop where
  links : ∀ i j parent, builder.table.Links i j parent →
    i < j ∧ ∃ target, builder.nodes[j]? = some target ∧ target.parent = parent
  parent : ∀ (i : Nat) (node : Node) (j : Nat), builder.nodes[i]? = some node → node.parent = some j → j < i
  first : ∃ node, builder.nodes[0]? = some node ∧ node.parent = none
  targets : ∀ j, builder.table.targets.count j = if 0 < j ∧ j < builder.nodes.size then 1 else 0
  content : ∀ (i : Nat) (node : Node), builder.nodes[i]? = some node → node.content ≠ "" → node.child = none
  spine : Spine builder.nodes (builder.cursor :: builder.openGroups)

/-! ## The two changes -/

/-- The builder with one more node, which the cursor's node is changed to refer to, and with the cursor on it. -/
def grow (builder : Builder) (change : Node → Node) (parent : Option Nat) (groups : List Nat) : Builder where
  nodes := (builder.nodes.modify builder.cursor change).push { parent }
  cursor := builder.nodes.size
  openGroups := groups

/-- How a node comes to refer to a new one at an index: as its next sibling, which has the same parent, or as its
child. -/
inductive Attaches (index size : Nat) (node changed : Node) : (parent : Option Nat) → Prop where
  | sibling (last : node.next = none) (next : changed.next = some size) (child : changed.child = node.child) :
      Attaches index size node changed node.parent
  | child (childless : node.child = none) (empty : node.content = "") (child : changed.child = some size)
      (next : changed.next = node.next) : Attaches index size node changed (some index)

section Changes

variable {builder : Builder} {node : Node} {change : Node → Node} {parent : Option Nat} {groups : List Nat}

theorem lt_of_found {nodes : Array Node} {i : Nat} {node : Node} (found : nodes[i]? = some node) : i < nodes.size :=
  (Array.getElem?_eq_some_iff.1 found).1

theorem getElem?_modifyCursor (found : builder.nodes[builder.cursor]? = some node) (i : Nat) :
    (builder.modifyCursor change).nodes[i]? = if i = builder.cursor then some (change node) else builder.nodes[i]? := by
  simp only [modifyCursor, Array.getElem?_modify]
  by_cases here : i = builder.cursor
  · rw [if_pos here, if_pos here.symm, here, found]
    rfl
  · rw [if_neg here, if_neg (Ne.symm here)]

/-- A node that was there is changed, if the cursor is on it, or the same. -/
theorem found_modifyCursor (found : builder.nodes[builder.cursor]? = some node) {i : Nat} {old : Node}
    (was : builder.nodes[i]? = some old) (change : Node → Node) :
    (i = builder.cursor ∧ old = node ∧ (builder.modifyCursor change).nodes[i]? = some (change node)) ∨
      (builder.modifyCursor change).nodes[i]? = some old := by
  rw [getElem?_modifyCursor found]
  by_cases here : i = builder.cursor
  · subst here
    exact .inl ⟨rfl, Option.some.inj (was.symm.trans found), if_pos rfl⟩
  · rw [if_neg here]
    exact .inr was

/-- A node is the changed one or was there. -/
theorem of_found_modifyCursor (found : builder.nodes[builder.cursor]? = some node) {i : Nat} {later : Node}
    (there : (builder.modifyCursor change).nodes[i]? = some later) :
    (i = builder.cursor ∧ later = change node) ∨ builder.nodes[i]? = some later := by
  rw [getElem?_modifyCursor found] at there
  by_cases here : i = builder.cursor
  · rw [if_pos here] at there
    exact .inl ⟨here, (Option.some.inj there).symm⟩
  · rw [if_neg here] at there
    exact .inr there

theorem getElem?_grow (i : Nat) : (builder.grow change parent groups).nodes[i]? =
    if i = builder.nodes.size then some { parent } else (builder.modifyCursor change).nodes[i]? := by
  simp only [grow, modifyCursor, Array.getElem?_push, Array.size_modify]

/-- The new node. -/
theorem getElem?_grow_size :
    (builder.grow change parent groups).nodes[builder.nodes.size]? = some { parent } := by
  rw [getElem?_grow, if_pos rfl]

/-- A node that was there is changed, if the cursor is on it, or the same. -/
theorem found_grow (found : builder.nodes[builder.cursor]? = some node) {i : Nat} {old : Node}
    (was : builder.nodes[i]? = some old) (change : Node → Node) (parent : Option Nat) (groups : List Nat) :
    (i = builder.cursor ∧ old = node ∧ (builder.grow change parent groups).nodes[i]? = some (change node)) ∨
      (builder.grow change parent groups).nodes[i]? = some old := by
  have small := lt_of_found was
  rw [getElem?_grow, if_neg (by omega)]
  exact found_modifyCursor found was change

/-- A node is the new one, the changed one or was there. -/
theorem of_found_grow (found : builder.nodes[builder.cursor]? = some node) {i : Nat} {later : Node}
    (there : (builder.grow change parent groups).nodes[i]? = some later) :
    (i = builder.nodes.size ∧ later = { parent }) ∨ (i = builder.cursor ∧ later = change node) ∨
      builder.nodes[i]? = some later := by
  rw [getElem?_grow] at there
  by_cases new : i = builder.nodes.size
  · rw [if_pos new] at there
    exact .inl ⟨new, (Option.some.inj there).symm⟩
  · rw [if_neg new] at there
    exact .inr (of_found_modifyCursor found there)

theorem exists_around_cursor (found : builder.nodes[builder.cursor]? = some node) :
    ∃ before after, builder.nodes.toList = before ++ node :: after ∧ before.length = builder.cursor := by
  have small := lt_of_found found
  refine ⟨builder.nodes.toList.take builder.cursor, builder.nodes.toList.drop (builder.cursor + 1), ?_, ?_⟩
  · rw [← Array.getElem?_toList, List.getElem?_eq_some_iff] at found
    obtain ⟨inside, rfl⟩ := found
    rw [List.getElem_cons_drop, List.take_append_drop]
  · rw [List.length_take, Array.length_toList]
    omega

/-- Changing the cursor's node changes the targets by its own links only. -/
theorem count_targets_modify (found : builder.nodes[builder.cursor]? = some node) (j : Nat) :
    (builder.modifyCursor change).table.targets.count j + (node.child.toList ++ node.next.toList).count j =
      builder.table.targets.count j + ((change node).child.toList ++ (change node).next.toList).count j := by
  obtain ⟨before, after, whole, length⟩ := exists_around_cursor found
  simp only [modifyCursor, table, NodeTable.targets, Array.toList_modify, whole, ← length,
    Pattern.modify_append_length, List.flatMap_append, List.flatMap_cons, List.count_append]
  omega

/-- Growth adds the new node to the targets. -/
theorem count_targets_grow (found : builder.nodes[builder.cursor]? = some node)
    (attaches : Attaches builder.cursor builder.nodes.size node (change node) parent) (j : Nat) :
    (builder.grow change parent groups).table.targets.count j =
      builder.table.targets.count j + if j = builder.nodes.size then 1 else 0 := by
  have pushed : (builder.grow change parent groups).table.targets = (builder.modifyCursor change).table.targets := by
    simp [grow, modifyCursor, table, NodeTable.targets]
  have changed := @count_targets_modify builder node change found j
  have new : [builder.nodes.size].count j = if j = builder.nodes.size then 1 else 0 := by
    rw [List.count_singleton]
    simp only [beq_iff_eq, @eq_comm _ builder.nodes.size j]
  rw [pushed]
  cases attaches with
  | sibling last next child =>
    rw [next, child, last] at changed
    simp only [Option.toList_some, Option.toList_none, List.count_append, List.count_nil, new] at changed
    omega
  | child childless empty child next =>
    rw [child, next, childless] at changed
    simp only [Option.toList_some, Option.toList_none, List.count_append, List.count_nil, new] at changed
    omega

/-- A link after growth was there, or leads from the cursor to the new node. -/
theorem links_of_links_grow (found : builder.nodes[builder.cursor]? = some node)
    (keeps : (change node).parent = node.parent)
    (attaches : Attaches builder.cursor builder.nodes.size node (change node) parent) {i j : Nat} {expected : Option Nat}
    (links : (builder.grow change parent groups).table.Links i j expected) :
    builder.table.Links i j expected ∨ (i = builder.cursor ∧ j = builder.nodes.size ∧ expected = parent) := by
  cases links with
  | child there link =>
    obtain ⟨_, rfl⟩ | ⟨rfl, rfl⟩ | was := @of_found_grow builder node change parent groups found _ _ there
    · cases link
    · cases attaches with
      | sibling last next child => exact .inl (.child found (child ▸ link))
      | child childless empty child next => exact .inr ⟨rfl, Option.some.inj (link.symm.trans child), rfl⟩
    · exact .inl (.child was link)
  | next there link =>
    obtain ⟨_, rfl⟩ | ⟨rfl, rfl⟩ | was := @of_found_grow builder node change parent groups found _ _ there
    · cases link
    · rw [keeps]
      cases attaches with
      | sibling last next child => exact .inr ⟨rfl, Option.some.inj (link.symm.trans next), rfl⟩
      | child childless empty child next => exact .inl (.next found (next ▸ link))
    · exact .inl (.next was link)

end Changes

/-! ## What the changes keep -/

theorem Spine.of_kept {before after : Array Node} {path : List Nat} (spine : Spine before path)
    (kept : ∀ i ∈ path, ∀ node, before[i]? = some node →
      ∃ later, after[i]? = some later ∧ later.next = node.next ∧ later.parent = node.parent) : Spine after path := by
  induction path with
  | nil => trivial
  | cons i outer ih =>
    obtain ⟨⟨node, found, last, parent⟩, rest⟩ := spine
    rw [List.forall_mem_cons] at kept
    obtain ⟨later, there, sameNext, sameParent⟩ := kept.1 node found
    exact ⟨⟨later, there, sameNext.trans last, sameParent.trans parent⟩, ih rest kept.2⟩

namespace Sound

variable {builder : Builder} {node : Node} {change : Node → Node} {parent : Option Nat} {groups : List Nat}

theorem exists_cursor (sound : builder.Sound) : ∃ node, builder.nodes[builder.cursor]? = some node ∧ node.next = none ∧
    node.parent = builder.openGroups.head? :=
  sound.spine.1

/-- The nodes on the way out have smaller and smaller indices. -/
theorem lt_of_mem_spine (sound : builder.Sound) {i : Nat} {outer : List Nat} (spine : Spine builder.nodes (i :: outer)) :
    ∀ group ∈ outer, group < i := by
  induction outer generalizing i with
  | nil => exact fun _ member => absurd member List.not_mem_nil
  | cons group outer ih =>
    obtain ⟨⟨node, found, _, parent⟩, rest⟩ := spine
    have below := sound.parent i node group found parent
    refine List.forall_mem_cons.2 ⟨below, fun further member => ?_⟩
    exact Nat.lt_trans (ih rest further member) below

/-- Replacing the content of the cursor's node, where it may have content, keeps everything else. -/
theorem modifyCursor (sound : builder.Sound) (found : builder.nodes[builder.cursor]? = some node)
    (child : (change node).child = node.child) (next : (change node).next = node.next)
    (parent : (change node).parent = node.parent) (content : (change node).content ≠ "" → node.child = none) :
    (builder.modifyCursor change).Sound := by
  have size : (builder.modifyCursor change).nodes.size = builder.nodes.size := by simp [Builder.modifyCursor]
  -- Every node has a counterpart before the change with the same links, and after it.
  have before : ∀ {i : Nat} {later : Node}, (builder.modifyCursor change).nodes[i]? = some later →
      ∃ old, builder.nodes[i]? = some old ∧ later.child = old.child ∧ later.next = old.next ∧
        later.parent = old.parent := by
    intro i later there
    obtain ⟨rfl, rfl⟩ | was := of_found_modifyCursor found there
    · exact ⟨node, found, child, next, parent⟩
    · exact ⟨later, was, rfl, rfl, rfl⟩
  have after : ∀ {i : Nat} {old : Node}, builder.nodes[i]? = some old →
      ∃ later, (builder.modifyCursor change).nodes[i]? = some later ∧ later.next = old.next ∧
        later.parent = old.parent := by
    intro i old was
    obtain ⟨rfl, rfl, there⟩ | there := found_modifyCursor found was change
    · exact ⟨_, there, next, parent⟩
    · exact ⟨old, there, rfl, rfl⟩
  constructor
  case links =>
    intro i j expected links
    have was : builder.table.Links i j expected := by
      cases links with
      | child there link =>
        obtain ⟨old, was, sameChild, _, _⟩ := before there
        exact .child was (sameChild ▸ link)
      | next there link =>
        obtain ⟨old, was, _, sameNext, sameParent⟩ := before there
        rw [sameParent]
        exact .next was (sameNext ▸ link)
    obtain ⟨less, target, there, isParent⟩ := sound.links i j expected was
    obtain ⟨later, found, _, sameParent⟩ := after there
    exact ⟨less, later, found, sameParent.trans isParent⟩
  case parent =>
    intro i later j there isParent
    obtain ⟨old, was, _, _, sameParent⟩ := before there
    exact sound.parent i old j was (sameParent.symm.trans isParent)
  case first =>
    obtain ⟨old, was, outermost⟩ := sound.first
    obtain ⟨later, there, _, sameParent⟩ := after was
    exact ⟨later, there, sameParent.trans outermost⟩
  case targets =>
    intro j
    have changed := @count_targets_modify builder node change found j
    rw [child, next, Nat.add_right_cancel_iff] at changed
    rw [changed, sound.targets, size]
  case content =>
    intro i later there written
    obtain ⟨rfl, rfl⟩ | was := of_found_modifyCursor found there
    · rw [child]
      exact content written
    · exact sound.content i later was written
  case spine => exact sound.spine.of_kept fun i _ old was => after was

/-- Growth keeps the links, and the cursor goes to the new node; what is left of the way out has to be one again. -/
theorem grow (sound : builder.Sound) (found : builder.nodes[builder.cursor]? = some node)
    (keepsParent : (change node).parent = node.parent) (keepsContent : (change node).content = node.content)
    (attaches : Attaches builder.cursor builder.nodes.size node (change node) parent)
    (spine : Spine (builder.grow change parent groups).nodes (builder.nodes.size :: groups)) :
    (builder.grow change parent groups).Sound := by
  have small := lt_of_found found
  have size : (builder.grow change parent groups).nodes.size = builder.nodes.size + 1 := by simp [Builder.grow]
  have after : ∀ {i : Nat} {old : Node}, builder.nodes[i]? = some old →
      ∃ later, (builder.grow change parent groups).nodes[i]? = some later ∧ later.parent = old.parent := by
    intro i old was
    obtain ⟨rfl, rfl, there⟩ | there := found_grow found was change parent groups
    · exact ⟨_, there, keepsParent⟩
    · exact ⟨old, there, rfl⟩
  constructor
  case links =>
    intro i j expected links
    obtain was | ⟨rfl, rfl, rfl⟩ := links_of_links_grow found keepsParent attaches links
    · obtain ⟨less, target, there, isParent⟩ := sound.links i j expected was
      obtain ⟨later, there, sameParent⟩ := after there
      exact ⟨less, later, there, sameParent.trans isParent⟩
    · exact ⟨small, _, getElem?_grow_size, rfl⟩
  case parent =>
    intro i later j there isParent
    obtain ⟨rfl, rfl⟩ | ⟨rfl, rfl⟩ | was := of_found_grow found there
    · have isParent : parent = some j := isParent
      cases attaches with
      | sibling last next child =>
        have below := sound.parent builder.cursor node j found isParent
        omega
      | child childless empty child next =>
        obtain rfl := Option.some.inj isParent
        exact small
    · exact sound.parent _ node j found (keepsParent.symm.trans isParent)
    · exact sound.parent i later j was isParent
  case first =>
    obtain ⟨old, was, outermost⟩ := sound.first
    obtain ⟨later, there, sameParent⟩ := after was
    exact ⟨later, there, sameParent.trans outermost⟩
  case targets =>
    intro j
    rw [count_targets_grow found attaches, sound.targets, size]
    split_ifs <;> omega
  case content =>
    intro i later there written
    obtain ⟨_, rfl⟩ | ⟨rfl, rfl⟩ | was := of_found_grow found there
    · exact absurd rfl written
    · rw [keepsContent] at written
      cases attaches with
      | sibling last next child => exact child.trans (sound.content _ node found written)
      | child childless empty child next => exact absurd empty written
    · exact sound.content i later was written
  case spine => exact spine

/-- The open groups stay on the way out from a node that is put after the cursor. -/
theorem spine_grow (sound : builder.Sound) (found : builder.nodes[builder.cursor]? = some node) :
    Spine (builder.grow change parent groups).nodes builder.openGroups := by
  refine sound.spine.2.of_kept fun group member old was => ?_
  have below := sound.lt_of_mem_spine sound.spine group member
  obtain ⟨same, _, _⟩ | there := found_grow found was change parent groups
  · omega
  · exact ⟨old, there, rfl, rfl⟩

end Sound

/-- Growth overwrites no link: the one that is set was not there. -/
theorem extends_grow {builder : Builder} {node : Node} {change : Node → Node} {parent : Option Nat} {groups : List Nat}
    (found : builder.nodes[builder.cursor]? = some node) (keepsParent : (change node).parent = node.parent)
    (attaches : Attaches builder.cursor builder.nodes.size node (change node) parent) :
    builder.Extends (builder.grow change parent groups) := by
  intro i old was
  obtain ⟨rfl, rfl, there⟩ | there := found_grow found was change parent groups
  · refine ⟨_, there, keepsParent, ?_⟩
    cases attaches with
    | sibling last next child =>
      rw [last]
      exact ⟨fun j isChild => child.trans isChild, fun j impossible => absurd impossible (by simp)⟩
    | child childless empty child next =>
      rw [childless]
      exact ⟨fun j impossible => absurd impossible (by simp), fun j isNext => next.trans isNext⟩
  · exact ⟨old, there, rfl, fun j isChild => isChild, fun j isNext => isNext⟩

theorem extends_refl (builder : Builder) : builder.Extends builder :=
  fun _ node there => ⟨node, there, rfl, fun _ isChild => isChild, fun _ isNext => isNext⟩

theorem Extends.trans {first second third : Builder} (one : first.Extends second) (two : second.Extends third) :
    first.Extends third := by
  intro i node there
  obtain ⟨later, found, parent, child, next⟩ := one i node there
  obtain ⟨last, foundLast, parentLast, childLast, nextLast⟩ := two i later found
  refine ⟨last, foundLast, parentLast.trans parent, fun j isChild => ?_, fun j isNext => ?_⟩
  · exact childLast j (child j isChild)
  · exact nextLast j (next j isNext)

theorem extends_modifyCursor {builder : Builder} {node : Node} {change : Node → Node}
    (found : builder.nodes[builder.cursor]? = some node) (child : (change node).child = node.child)
    (next : (change node).next = node.next) (parent : (change node).parent = node.parent) :
    builder.Extends (builder.modifyCursor change) := by
  intro i old was
  obtain ⟨rfl, rfl, there⟩ | there := found_modifyCursor found was change
  · exact ⟨_, there, parent, fun j isChild => child.trans isChild, fun j isNext => next.trans isNext⟩
  · exact ⟨old, there, rfl, fun j isChild => isChild, fun j isNext => isNext⟩

/-! ## What the calls keep -/

section Calls

variable {builder : Builder}

/-- Moving on keeps the open groups, and the cursor is on a placeholder then. -/
theorem Sound.advance (sound : builder.Sound) :
    builder.advance.Sound ∧ builder.Extends builder.advance ∧
      ∃ node, builder.advance.nodes[builder.advance.cursor]? = some node ∧ node.isPlaceholder = true := by
  obtain ⟨node, found, last, parent⟩ := sound.exists_cursor
  by_cases occupied : node.isOccupied = true
  · have grown : builder.advance = builder.grow (fun node => { node with next := some builder.nodes.size })
        builder.openGroups.head? builder.openGroups := by
      simp only [Builder.advance, found, if_pos occupied]
      rfl
    have attaches : Attaches builder.cursor builder.nodes.size node
        { node with next := some builder.nodes.size } builder.openGroups.head? := by
      rw [← parent]
      exact .sibling last rfl rfl
    rw [grown]
    refine ⟨?_, extends_grow found rfl attaches, _, getElem?_grow_size, rfl⟩
    exact sound.grow found rfl rfl attaches ⟨⟨_, getElem?_grow_size, rfl, rfl⟩, sound.spine_grow found⟩
  · have same : builder.advance = builder := by
      simp only [Builder.advance, found, if_neg occupied]
    rw [same]
    refine ⟨sound, builder.extends_refl, node, found, ?_⟩
    simpa [Node.isOccupied] using occupied

theorem Sound.putLeaf (sound : builder.Sound) (kind : NodeKind) (content : String) (location : Option Location) :
    (builder.putLeaf kind content location).Sound ∧ builder.Extends (builder.putLeaf kind content location) := by
  obtain ⟨soundThere, kept, node, found, placeholder⟩ := sound.advance
  have childless : node.child = none := by
    simp only [Node.isPlaceholder, Bool.and_eq_true, Option.isNone_iff_eq_none] at placeholder
    exact placeholder.1
  refine ⟨soundThere.modifyCursor found rfl rfl rfl fun _ => childless, ?_⟩
  exact kept.trans (extends_modifyCursor found rfl rfl rfl)

theorem Sound.enterGroup (sound : builder.Sound) (location : Option Location) :
    (builder.enterGroup location).Sound ∧ builder.Extends (builder.enterGroup location) := by
  obtain ⟨soundThere, kept, node, found, placeholder⟩ := sound.advance
  simp only [Node.isPlaceholder, Bool.and_eq_true, Option.isNone_iff_eq_none, beq_iff_eq] at placeholder
  obtain ⟨childless, empty⟩ := placeholder
  have attaches : Attaches builder.advance.cursor builder.advance.nodes.size node
      { node with location, child := some builder.advance.nodes.size } (some builder.advance.cursor) :=
    .child childless empty rfl rfl
  have grown : builder.enterGroup location = builder.advance.grow
      (fun node => { node with location, child := some builder.advance.nodes.size })
      (some builder.advance.cursor) (builder.advance.cursor :: builder.advance.openGroups) := rfl
  rw [grown]
  refine ⟨soundThere.grow found rfl rfl attaches ⟨?_, ?_⟩, kept.trans (extends_grow found rfl attaches)⟩
  · exact ⟨_, getElem?_grow_size, rfl, rfl⟩
  · -- The group itself is now on the way out, and only its child link has changed.
    refine soundThere.spine.of_kept fun i _ old was => ?_
    obtain ⟨rfl, rfl, there⟩ | there := found_grow found was _ _ _
    · exact ⟨_, there, rfl, rfl⟩
    · exact ⟨old, there, rfl, rfl⟩

theorem Sound.exitGroup (sound : builder.Sound) {next : Builder} (done : builder.exitGroup = .ok next) :
    next.Sound ∧ builder.Extends next := by
  unfold Builder.exitGroup at done
  split at done
  · cases done
  · rename_i group outer opened
    obtain rfl := Except.ok.inj done
    have spine := sound.spine
    rw [opened] at spine
    exact ⟨⟨sound.links, sound.parent, sound.first, sound.targets, sound.content, spine.2⟩, builder.extends_refl⟩

/-- A flag or a repetition may be set on any node. -/
theorem Sound.modifyCursor_of_keeps (sound : builder.Sound) {change : Node → Node}
    (keeps : ∀ node, (change node).child = node.child ∧ (change node).next = node.next ∧
      (change node).parent = node.parent ∧ (change node).content = node.content) :
    (builder.modifyCursor change).Sound ∧ builder.Extends (builder.modifyCursor change) := by
  obtain ⟨node, found, _, _⟩ := sound.exists_cursor
  obtain ⟨child, next, parent, content⟩ := keeps node
  refine ⟨sound.modifyCursor found child next parent fun written => ?_, extends_modifyCursor found child next parent⟩
  exact sound.content _ node found (content ▸ written)

theorem Sound.apply (sound : builder.Sound) {step : BuildStep} {next : Builder} (done : builder.apply step = .ok next) :
    next.Sound ∧ builder.Extends next := by
  cases step with
  | literal text location =>
    obtain rfl := Except.ok.inj done
    exact sound.putLeaf .literal text location
  | symbol name location =>
    obtain rfl := Except.ok.inj done
    exact sound.putLeaf .symbol name location
  | enterGroup location =>
    obtain rfl := Except.ok.inj done
    exact sound.enterGroup location
  | exitGroup => exact sound.exitGroup done
  | alternative =>
    obtain rfl := Except.ok.inj done
    exact sound.modifyCursor_of_keeps fun node => ⟨rfl, rfl, rfl, rfl⟩
  | repeated repetition =>
    obtain rfl := Except.ok.inj done
    exact sound.modifyCursor_of_keeps fun node => ⟨rfl, rfl, rfl, rfl⟩

theorem Sound.run (sound : builder.Sound) {steps : List BuildStep} {next : Builder}
    (done : builder.run steps = .ok next) : next.Sound := by
  induction steps generalizing builder with
  | nil =>
    obtain rfl := Except.ok.inj done
    exact sound
  | cons step rest ih =>
    obtain ⟨between, applied, ran⟩ := bind_eq_ok_iff.1 done
    exact ih (sound.apply applied).1 ran

theorem Sound.call (sound : builder.Sound) {call : BuildCall} {next : Builder} (done : builder.call call = .ok next) :
    next.Sound ∧ builder.Extends next := by
  cases call with
  | step step => exact sound.apply done
  | finish =>
    obtain ⟨_, _, rfl⟩ := map_eq_ok_iff.1 done
    exact ⟨sound, builder.extends_refl⟩

/-- One call. -/
theorem Sound.after (sound : builder.Sound) (call : BuildCall) :
    (builder.after call).Sound ∧ builder.Extends (builder.after call) := by
  unfold Builder.after
  split
  · rename_i next done
    exact sound.call done
  · exact ⟨sound, builder.extends_refl⟩

/-- Any number of calls. -/
theorem Sound.replay (sound : builder.Sound) (calls : List BuildCall) : (builder.replay calls).Sound := by
  induction calls generalizing builder with
  | nil => exact sound
  | cons call rest ih => exact ih (sound.after call).1

theorem sound_empty : empty.Sound := by
  have only : ∀ {i : Nat} {node : Node}, empty.nodes[i]? = some node → i = 0 ∧ node = {} := by
    intro i node found
    have small : i < 1 := lt_of_found found
    obtain rfl : i = 0 := by omega
    exact ⟨rfl, (Option.some.inj found).symm⟩
  refine ⟨?_, ?_, ⟨{}, rfl, rfl⟩, ?_, ?_, ⟨⟨{}, rfl, rfl, rfl⟩, trivial⟩⟩
  · intro i j parent links
    cases links with
    | child found link =>
      obtain ⟨_, rfl⟩ := only found
      cases link
    | next found link =>
      obtain ⟨_, rfl⟩ := only found
      cases link
  · intro i node j found parent
    obtain ⟨_, rfl⟩ := only found
    cases parent
  · intro j
    have none : empty.table.targets = [] := rfl
    have size : empty.nodes.size = 1 := rfl
    rw [none, List.count_nil, size, if_neg (by omega)]
  · intro i node found _
    obtain ⟨_, rfl⟩ := only found
    rfl

end Calls

end Builder

end Utterance
