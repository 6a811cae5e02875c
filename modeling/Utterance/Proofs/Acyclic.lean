import Mathlib.Data.Finset.Card
import Mathlib.Data.Finset.Range
import Mathlib.Logic.Relation
import Utterance.Proofs.Growth

/-!
# Tables without circles

A table may be given as it is, with its nodes in any order. As long as no link leads out of it and none leads in a
circle, what is read from a link on does not depend on how many links may be followed: the nodes that can be reached
from a node (`rank`) become fewer with every link, and a node does not reach itself. So every chain of siblings ends
(`exists_strung`), and the chain that a link denotes has one equation for each kind of node (`chainAt_some`).
-/

namespace Utterance
set_option autoImplicit false

/-- The nodes that follow each other from a link on, to the one without a sibling. -/
def Builder.Strung (nodes : Array Node) : Option Nat → List Nat → Prop
  | link, [] => link = none
  | link, i :: rest => link = some i ∧ ∃ node, nodes[i]? = some node ∧ Builder.Strung nodes node.next rest

namespace NodeTable

/-- A node links to another one. -/
def Leads (table : NodeTable) (i j : Nat) : Prop := ∃ parent, table.Links i j parent

/-- No link leads out of the table, and none leads in a circle. -/
structure IsLinked (table : NodeTable) : Prop where
  first_lt : ∀ i ∈ table.first, i < table.nodes.size
  lt_of_leads : ∀ i j, table.Leads i j → j < table.nodes.size
  acyclic : ∀ i, ¬Relation.TransGen table.Leads i i

/-- A measure that becomes smaller with every link excludes circles. -/
theorem isLinked_of_measure {table : NodeTable} (measure : Nat → Nat) (first : ∀ i ∈ table.first, i < table.nodes.size)
    (smaller : ∀ {i j}, table.Leads i j → j < table.nodes.size ∧ measure j < measure i) : table.IsLinked := by
  have falls : ∀ {i j}, Relation.TransGen table.Leads i j → measure j < measure i := by
    intro i j path
    induction path with
    | single leads => exact (smaller leads).2
    | tail _ leads ih => exact (smaller leads).2.trans ih
  exact ⟨first, fun i j leads => (smaller leads).1, fun i circle => Nat.lt_irrefl _ (falls circle)⟩

/-- Whether the first link leads into the table, and every other one too and to a node of a smaller measure. -/
def descends (table : NodeTable) (measure : Nat → Nat) : Bool :=
  table.first.all (· < table.nodes.size) &&
    table.nodes.toList.zipIdx.all fun (node, i) =>
      (node.child.toList ++ node.next.toList).all fun j => j < table.nodes.size && measure j < measure i

theorem isLinked_of_descends {table : NodeTable} {measure : Nat → Nat} (descends : table.descends measure = true) :
    table.IsLinked := by
  obtain ⟨first, links⟩ := Bool.and_eq_true_iff.1 descends
  refine isLinked_of_measure measure ?_ ?_
  · intro i target
    rw [target] at first
    exact of_decide_eq_true first
  · rintro i j ⟨_, link⟩
    obtain ⟨node, found, member⟩ : ∃ node, table.nodes[i]? = some node ∧ j ∈ node.child.toList ++ node.next.toList := by
      cases link with
      | child found link => exact ⟨_, found, by simp [link]⟩
      | next found link => exact ⟨_, found, by simp [link]⟩
    rw [← Array.getElem?_toList] at found
    have checked := List.all_eq_true.1 (List.all_eq_true.1 links _ (List.mk_mem_zipIdx_iff_getElem?.2 found)) j member
    simpa using checked

open Classical in
/-- How many nodes can be reached from a node. -/
noncomputable def rank (table : NodeTable) (i : Nat) : Nat :=
  ((Finset.range table.nodes.size).filter (Relation.TransGen table.Leads i)).card

section Rank

variable {table : NodeTable} {i j : Nat} {node : Node}

theorem rank_lt_of_leads (linked : table.IsLinked) (leads : table.Leads i j) : table.rank j < table.rank i := by
  classical
  -- what the target reaches, the node before it reaches too, and besides the target itself
  refine Finset.card_lt_card ((Finset.ssubset_iff_of_subset fun k reached => ?_).2 ⟨j, ?_, ?_⟩)
  · obtain ⟨small, path⟩ := Finset.mem_filter.1 reached
    exact Finset.mem_filter.2 ⟨small, .head leads path⟩
  · exact Finset.mem_filter.2 ⟨Finset.mem_range.2 (linked.lt_of_leads i j leads), .single leads⟩
  · intro reached
    exact linked.acyclic j (Finset.mem_filter.1 reached).2

theorem rank_lt_size (linked : table.IsLinked) (small : i < table.nodes.size) : table.rank i < table.nodes.size := by
  classical
  calc table.rank i
    _ < (Finset.range table.nodes.size).card := by
      refine Finset.card_lt_card ((Finset.ssubset_iff_of_subset (Finset.filter_subset _ _)).2
        ⟨i, Finset.mem_range.2 small, fun reached => ?_⟩)
      exact linked.acyclic i (Finset.mem_filter.1 reached).2
    _ = table.nodes.size := Finset.card_range _

theorem leads_child (found : table.nodes[i]? = some node) : ∀ j ∈ node.child, table.Leads i j :=
  fun _ link => ⟨_, .child found link⟩

theorem leads_next (found : table.nodes[i]? = some node) : ∀ j ∈ node.next, table.Leads i j :=
  fun _ link => ⟨_, .next found link⟩

end Rank

/-- A link into the table that can be followed to the end with some fuel. -/
def Within (table : NodeTable) (fuel : Nat) (link : Option Nat) : Prop :=
  ∀ i ∈ link, i < table.nodes.size ∧ table.rank i < fuel

section Unfolding

variable {table : NodeTable} {i fuel : Nat} {node : Node} {link : Option Nat}

theorem within_size (linked : table.IsLinked) (inside : ∀ i ∈ link, i < table.nodes.size) :
    table.Within table.nodes.size link :=
  fun i target => ⟨inside i target, rank_lt_size linked (inside i target)⟩

theorem exists_found (within : table.Within fuel (some i)) : ∃ node, table.nodes[i]? = some node :=
  ⟨_, Array.getElem?_eq_getElem (within i rfl).1⟩

/-- Following a link takes one off the fuel. -/
theorem Within.follow (linked : table.IsLinked) (within : table.Within (fuel + 1) (some i))
    (leads : ∀ j ∈ link, table.Leads i j) : table.Within fuel link := by
  intro j target
  have falls := rank_lt_of_leads linked (leads j target)
  have enough := (within i rfl).2
  exact ⟨linked.lt_of_leads i j (leads j target), by omega⟩

/-- What holds where there is no link, and at a node if it holds at its child and at its sibling, holds at every link
that can be followed to the end. -/
theorem Within.induction {motive : Nat → Option Nat → Prop} (linked : table.IsLinked)
    (atEnd : ∀ fuel, motive fuel none)
    (atNode : ∀ fuel i node, table.nodes[i]? = some node → motive fuel node.child → motive fuel node.next →
      motive (fuel + 1) (some i))
    (within : table.Within fuel link) : motive fuel link := by
  induction fuel generalizing link with
  | zero =>
    cases link with
    | none => exact atEnd 0
    | some i => exact absurd (within i rfl).2 (Nat.not_lt_zero _)
  | succ fuel ih =>
    cases link with
    | none => exact atEnd (fuel + 1)
    | some i =>
      obtain ⟨node, found⟩ := exists_found within
      have child := ih (within.follow linked (leads_child found))
      have next := ih (within.follow linked (leads_next found))
      exact atNode fuel i node found child next

theorem unfold_none (table : NodeTable) (fuel : Nat) : table.unfold fuel none = .nil := by
  rw [NodeTable.unfold]

theorem unfold_eq_unfold (linked : table.IsLinked) {more : Nat} (within : table.Within fuel link)
    (withinToo : table.Within more link) : table.unfold fuel link = table.unfold more link := by
  refine within.induction (motive := fun fuel link => ∀ more, table.Within more link →
    table.unfold fuel link = table.unfold more link) linked ?_ ?_ more withinToo
  · intro fuel more _
    rw [unfold_none, unfold_none]
  · intro fuel i node found child next more withinToo
    cases more with
    | zero => exact absurd (withinToo i rfl).2 (Nat.not_lt_zero _)
    | succ more =>
      simp only [NodeTable.unfold, found, child more (withinToo.follow linked (leads_child found)),
        next more (withinToo.follow linked (leads_next found))]

/-- The chain that a link denotes. -/
def chainAt (table : NodeTable) (link : Option Nat) : Chain := table.unfold table.nodes.size link

theorem chainAt_none : table.chainAt none = .nil := unfold_none table _

theorem chainAt_some (linked : table.IsLinked) (found : table.nodes[i]? = some node) :
    table.chainAt (some i) =
      if node.isPlaceholder then table.chainAt node.next
      else if node.isGroup then
        .group (table.chainAt node.child) node.repetition node.closesAlternative (table.chainAt node.next)
      else .leaf node.leaf node.repetition node.closesAlternative (table.chainAt node.next) := by
  have within : table.Within table.nodes.size (some i) := within_size linked (by
    rintro _ ⟨⟩
    exact Builder.lt_of_found found)
  obtain ⟨fuel, size⟩ : ∃ fuel, table.nodes.size = fuel + 1 :=
    Nat.exists_eq_add_one.2 (Nat.zero_lt_of_lt (Builder.lt_of_found found))
  -- behind the node one link less may be followed, which is still enough
  have enough : ∀ link, (∀ j ∈ link, table.Leads i j) → table.unfold fuel link = table.chainAt link := by
    intro link leads
    rw [size] at within
    exact unfold_eq_unfold linked (within.follow linked leads)
      (within_size linked fun j target => linked.lt_of_leads i j (leads j target))
  rw [← enough _ (leads_child found), ← enough _ (leads_next found), chainAt, size]
  simp only [NodeTable.unfold, found]

/-- A chain of siblings ends. -/
theorem exists_strung (linked : table.IsLinked) (inside : ∀ i ∈ link, i < table.nodes.size) :
    ∃ indices, table.siblings link = .ok indices ∧ Builder.Strung table.nodes link indices := by
  refine (within_size linked inside).induction (motive := fun fuel link =>
    ∃ indices, table.chainFrom fuel link = .ok indices ∧ Builder.Strung table.nodes link indices) linked ?_ ?_
  · intro fuel
    exact ⟨[], by rw [NodeTable.chainFrom], rfl⟩
  · rintro fuel i node found _ ⟨indices, rest, strung⟩
    refine ⟨i :: indices, ?_, rfl, node, found, strung⟩
    simp only [NodeTable.chainFrom, found, rest, Except.map]

end Unfolding

end NodeTable

end Utterance
