import Mathlib.Logic.Relation
import Utterance.Proofs.Acyclic

/-!
# The tree that a builder makes

Whatever a builder is asked to do, its nodes are a tree: links to children and siblings lead forward, every node but the
first is the target of one of them, a chain has exactly the nodes of one parent, the cursor is the last node of its
chain, and the open groups are the ancestors of the cursor (`isWellFormed_replay`).
-/

namespace Utterance
set_option autoImplicit false

namespace NodeTable

/-- Where the chain of the children of a group starts, or the one of the top level. -/
def headIn (table : NodeTable) : (group : Option Nat) → Option Nat
  | none => table.first
  | some group => table.nodes[group]?.bind Node.child

/-- The chain of the children of a group, or the one of the top level. -/
def chainIn (table : NodeTable) (group : Option Nat) : Except TableFault (List Nat) :=
  table.siblings (table.headIn group)

/-- The groups that a node is in, innermost first. -/
inductive HasAncestors (table : NodeTable) : (index : Nat) → List Nat → Prop where
  | top {index : Nat} {node : Node} (found : table.nodes[index]? = some node) (outermost : node.parent = none) :
      HasAncestors table index []
  | inside {index group : Nat} {node : Node} {outer : List Nat} (found : table.nodes[index]? = some node)
      (parent : node.parent = some group) (around : HasAncestors table group outer) :
      HasAncestors table index (group :: outer)

end NodeTable

namespace Builder

/-- The nodes are a tree in the order of their indices, and the cursor is where the next node belongs. -/
structure IsWellFormed (builder : Builder) : Prop where
  child_lt : ∀ (i : Nat) (node : Node), builder.nodes[i]? = some node →
    ∀ j ∈ node.child, i < j ∧ j < builder.nodes.size
  next_lt : ∀ (i : Nat) (node : Node), builder.nodes[i]? = some node →
    ∀ j ∈ node.next, i < j ∧ j < builder.nodes.size
  parent_lt : ∀ (i : Nat) (node : Node), builder.nodes[i]? = some node → ∀ j ∈ node.parent, j < i
  /-- the first node is the target of no link, and any other node of one -/
  target_once : ∀ j < builder.nodes.size, builder.table.targets.count j = if j = 0 then 0 else 1
  /-- no node is lost -/
  reached : ∀ j < builder.nodes.size,
    Relation.ReflTransGen (fun i j => ∃ parent, builder.table.Links i j parent) 0 j
  content_or_child : ∀ node ∈ builder.nodes, node.content ≠ "" → node.child = none
  /-- the chain of a group has all nodes whose parent is the group, and the top-level one those without a parent -/
  chain : ∀ group, ∃ indices, builder.table.chainIn group = .ok indices ∧
    ∀ i, i ∈ indices ↔ ∃ node, builder.nodes[i]? = some node ∧ node.parent = group
  /-- the cursor is the last node of its chain -/
  cursor_last : ∃ node, builder.nodes[builder.cursor]? = some node ∧
    ∃ indices, builder.table.chainIn node.parent = .ok indices ∧ indices.getLast? = some builder.cursor
  openGroups : builder.table.HasAncestors builder.cursor builder.openGroups

/-! ## The chains -/

section Strung

variable {nodes : Array Node} {link : Option Nat} {indices : List Nat}

theorem Strung.next_mem (strung : Strung nodes link indices) {i j : Nat} {node : Node} (member : i ∈ indices)
    (found : nodes[i]? = some node) (next : node.next = some j) : j ∈ indices := by
  induction indices generalizing link with
  | nil => exact absurd member List.not_mem_nil
  | cons k rest ih =>
    obtain ⟨_, head, there, tail⟩ := strung
    obtain rfl | member := List.mem_cons.1 member
    · obtain rfl := Option.some.inj (found.symm.trans there)
      cases rest with
      | nil => exact absurd (next.symm.trans tail) (by simp)
      | cons l others =>
        obtain rfl := Option.some.inj (next.symm.trans tail.1)
        simp
    · exact List.mem_cons_of_mem k (ih tail member)

theorem Strung.getLast? (strung : Strung nodes link indices) {i : Nat} {node : Node} (member : i ∈ indices)
    (found : nodes[i]? = some node) (last : node.next = none) : indices.getLast? = some i := by
  induction indices generalizing link with
  | nil => exact absurd member List.not_mem_nil
  | cons k rest ih =>
    obtain ⟨_, head, there, tail⟩ := strung
    cases rest with
    | nil =>
      obtain rfl := List.mem_singleton.1 member
      rfl
    | cons l others =>
      obtain rfl | member := List.mem_cons.1 member
      · obtain rfl := Option.some.inj (found.symm.trans there)
        exact absurd (last.symm.trans tail.1) (by simp)
      · rw [List.getLast?_cons_cons]
        exact ih tail member

end Strung

namespace Sound

variable {builder : Builder}

theorem links_lt (sound : builder.Sound) {i j : Nat} {parent : Option Nat} (links : builder.table.Links i j parent) :
    i < j ∧ j < builder.nodes.size := by
  obtain ⟨less, target, found, _⟩ := sound.links i j parent links
  exact ⟨less, lt_of_found found⟩

/-- There are no circles, since the links lead forward. -/
theorem isLinked (sound : builder.Sound) : builder.table.IsLinked := by
  refine NodeTable.isLinked_of_measure (builder.nodes.size - ·) ?_ ?_
  · rintro _ ⟨⟩
    obtain ⟨node, found, _⟩ := sound.first
    exact lt_of_found found
  · rintro i j ⟨parent, links⟩
    obtain ⟨later, small⟩ := sound.links_lt links
    exact ⟨small, by omega⟩

/-- The siblings of a node start with the node. -/
theorem exists_siblings (sound : builder.Sound) {i : Nat} (small : i < builder.nodes.size) :
    ∃ rest, builder.table.siblings (some i) = .ok (i :: rest) := by
  have inside : ∀ j ∈ some i, j < builder.nodes.size := by
    rintro _ ⟨⟩
    exact small
  obtain ⟨indices, chain, strung⟩ := NodeTable.exists_strung sound.isLinked inside
  cases indices with
  | nil => exact absurd strung (by simp [Strung])
  | cons k rest =>
    obtain rfl := Option.some.inj strung.1
    exact ⟨rest, chain⟩

/-- Every node but the first is linked to. -/
theorem exists_links (sound : builder.Sound) {j : Nat} (small : j < builder.nodes.size) (later : 0 < j) :
    ∃ i parent, builder.table.Links i j parent := by
  have once := sound.targets j
  rw [if_pos ⟨later, small⟩] at once
  have member : j ∈ builder.table.targets := List.count_pos_iff.1 (by omega)
  obtain ⟨node, listed, link⟩ := List.mem_flatMap.1 member
  obtain ⟨i, found⟩ := List.mem_iff_getElem?.1 listed
  rw [Array.getElem?_toList] at found
  obtain link | link := List.mem_append.1 link
  · exact ⟨i, _, .child found (Option.mem_toList.1 link)⟩
  · exact ⟨i, _, .next found (Option.mem_toList.1 link)⟩

theorem headIn_lt (sound : builder.Sound) (group : Option Nat) :
    ∀ i ∈ builder.table.headIn group, i < builder.nodes.size := by
  intro i head
  cases group with
  | none =>
    obtain rfl : 0 = i := Option.some.inj head
    obtain ⟨node, found, _⟩ := sound.first
    exact lt_of_found found
  | some group =>
    obtain ⟨node, found, child⟩ := Option.bind_eq_some_iff.1 head
    exact (sound.links_lt (.child found child)).2

/-- The head of a chain has the group for its parent. -/
theorem parent_headIn (sound : builder.Sound) {group : Option Nat} {i : Nat}
    (head : builder.table.headIn group = some i) : ∃ node, builder.nodes[i]? = some node ∧ node.parent = group := by
  cases group with
  | none =>
    obtain rfl : 0 = i := Option.some.inj head
    exact sound.first
  | some group =>
    obtain ⟨node, found, child⟩ := Option.bind_eq_some_iff.1 head
    exact (sound.links group i _ (.child found child)).2

/-- All nodes of a chain have the same parent. -/
theorem parent_of_mem_strung (sound : builder.Sound) {link parent : Option Nat} {indices : List Nat}
    (strung : Strung builder.nodes link indices)
    (first : ∀ i ∈ link, ∃ node, builder.nodes[i]? = some node ∧ node.parent = parent) :
    ∀ i ∈ indices, ∃ node, builder.nodes[i]? = some node ∧ node.parent = parent := by
  induction indices generalizing link with
  | nil => exact fun _ member => absurd member List.not_mem_nil
  | cons k rest ih =>
    obtain ⟨rfl, node, found, tail⟩ := strung
    obtain ⟨same, foundSame, isParent⟩ := first k rfl
    obtain rfl := Option.some.inj (found.symm.trans foundSame)
    refine List.forall_mem_cons.2 ⟨⟨node, found, isParent⟩, ih tail fun j next => ?_⟩
    obtain ⟨_, target, there, ofTarget⟩ := sound.links k j _ (.next found next)
    exact ⟨target, there, ofTarget.trans isParent⟩

/-- A node is in the chain of its parent. The links that lead to it start at the head of that chain, since a link to a
sibling keeps the parent. -/
theorem mem_strung_of_parent (sound : builder.Sound) {group : Option Nat} {indices : List Nat}
    (strung : Strung builder.nodes (builder.table.headIn group) indices) {j : Nat} {node : Node}
    (found : builder.nodes[j]? = some node) (parent : node.parent = group) : j ∈ indices := by
  have head_mem : ∀ {i : Nat}, builder.table.headIn group = some i → i ∈ indices := by
    intro i head
    cases indices with
    | nil => exact absurd (head.symm.trans strung) (by simp)
    | cons k rest =>
      obtain rfl := Option.some.inj (head.symm.trans strung.1)
      exact List.mem_cons_self
  induction j using Nat.strong_induction_on generalizing node with
  | _ j ih =>
    obtain rfl | later := Nat.eq_zero_or_pos j
    · obtain ⟨first, there, outermost⟩ := sound.first
      obtain rfl := Option.some.inj (found.symm.trans there)
      obtain rfl : none = group := outermost.symm.trans parent
      exact head_mem rfl
    · obtain ⟨i, expected, links⟩ := sound.exists_links (lt_of_found found) later
      obtain ⟨less, target, there, ofTarget⟩ := sound.links i j expected links
      obtain rfl := Option.some.inj (found.symm.trans there)
      cases links with
      | child was link =>
        obtain rfl : some i = group := ofTarget.symm.trans parent
        exact head_mem (Option.bind_eq_some_iff.2 ⟨_, was, link⟩)
      | next was link =>
        have member := ih i less was (ofTarget.symm.trans parent)
        exact strung.next_mem member was link

/-- The chain of a group, or of the top level, has exactly the nodes with that parent. -/
theorem exists_chainIn (sound : builder.Sound) (group : Option Nat) :
    ∃ indices, builder.table.chainIn group = .ok indices ∧ Strung builder.nodes (builder.table.headIn group) indices ∧
      ∀ i, i ∈ indices ↔ ∃ node, builder.nodes[i]? = some node ∧ node.parent = group := by
  obtain ⟨indices, chain, strung⟩ := NodeTable.exists_strung sound.isLinked (sound.headIn_lt group)
  refine ⟨indices, chain, strung, fun i => ⟨?_, ?_⟩⟩
  · exact sound.parent_of_mem_strung strung (fun i head => sound.parent_headIn head) i
  · rintro ⟨node, found, parent⟩
    exact sound.mem_strung_of_parent strung found parent

/-- A way out is the list of the ancestors. -/
theorem hasAncestors {i : Nat} {outer : List Nat} (spine : Spine builder.nodes (i :: outer)) :
    builder.table.HasAncestors i outer := by
  induction outer generalizing i with
  | nil =>
    obtain ⟨⟨node, found, _, parent⟩, _⟩ := spine
    exact .top found parent
  | cons group outer ih =>
    obtain ⟨⟨node, found, _, parent⟩, rest⟩ := spine
    exact .inside found parent (ih rest)

theorem isWellFormed (sound : builder.Sound) : builder.IsWellFormed := by
  constructor
  case child_lt => exact fun i node found j child => sound.links_lt (.child found child)
  case next_lt => exact fun i node found j next => sound.links_lt (.next found next)
  case parent_lt => exact fun i node found j parent => sound.parent i node j found parent
  case target_once =>
    intro j small
    rw [sound.targets]
    split_ifs <;> omega
  case reached =>
    intro j small
    induction j using Nat.strong_induction_on with
    | _ j ih =>
      obtain rfl | later := Nat.eq_zero_or_pos j
      · exact .refl
      · obtain ⟨i, parent, links⟩ := sound.exists_links small later
        have less := sound.links_lt links
        exact (ih i less.1 (less.1.trans less.2)).tail ⟨parent, links⟩
  case content_or_child =>
    intro node member
    obtain ⟨i, found⟩ := Array.mem_iff_getElem?.1 member
    exact sound.content i node found
  case chain =>
    intro group
    obtain ⟨indices, chain, _, members⟩ := sound.exists_chainIn group
    exact ⟨indices, chain, members⟩
  case cursor_last =>
    obtain ⟨node, found, last, _⟩ := sound.exists_cursor
    obtain ⟨indices, chain, strung, members⟩ := sound.exists_chainIn node.parent
    exact ⟨node, found, indices, chain, strung.getLast? ((members _).2 ⟨node, found, rfl⟩) found last⟩
  case openGroups => exact hasAncestors sound.spine

end Sound

/-- A call fails only where it closes a group that was not opened or asks for a table with open groups. -/
theorem call_eq_error_iff {builder : Builder} {call : BuildCall} {fault : BuildFault} :
    builder.call call = .error fault ↔
      (call = .step .exitGroup ∧ builder.openGroups = [] ∧ fault = .noOpenGroup) ∨
        (call = .finish ∧ builder.openGroups ≠ [] ∧ fault = .openGroups builder.openGroups.length) := by
  cases call with
  | step step =>
    cases step with
    | exitGroup =>
      cases opened : builder.openGroups <;> simp [Builder.call, Builder.apply, Builder.exitGroup, opened, eq_comm]
    | _ => simp [Builder.call, Builder.apply]
  | finish =>
    cases opened : builder.openGroups <;> simp [Builder.call, Builder.finish, opened, eq_comm, Except.map]

/-- After any calls the nodes are a tree with the cursor where the next node belongs. One more call fails only where it
closes a group that was not opened or asks for a table with open groups, which leaves the builder as it was, and never
overwrites a link. -/
theorem isWellFormed_replay (calls : List BuildCall) :
    (empty.replay calls).IsWellFormed ∧ ∀ call,
      (∀ fault, (empty.replay calls).call call = .error fault ↔
        (call = .step .exitGroup ∧ (empty.replay calls).openGroups = [] ∧ fault = .noOpenGroup) ∨
          (call = .finish ∧ (empty.replay calls).openGroups ≠ [] ∧
            fault = .openGroups (empty.replay calls).openGroups.length)) ∧
      (∀ fault, (empty.replay calls).call call = .error fault → empty.replay (calls ++ [call]) = empty.replay calls) ∧
      (empty.replay calls).Extends (empty.replay (calls ++ [call])) := by
  have sound := sound_empty.replay calls
  refine ⟨sound.isWellFormed, fun call => ⟨fun fault => call_eq_error_iff, fun fault failed => ?_, ?_⟩⟩
  · simp only [replay, List.foldl_append, List.foldl_cons, List.foldl_nil]
    simp only [replay] at failed
    simp only [after, failed]
  · simp only [replay, List.foldl_append, List.foldl_cons, List.foldl_nil]
    exact (sound.after call).2

end Builder

end Utterance
