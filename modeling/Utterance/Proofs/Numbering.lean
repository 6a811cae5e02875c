import Utterance.Proofs.Acyclic
import Utterance.Proofs.Rewording

/-!
# Numbers that are listed and numbers that are given

A sentence lists the numbers of its roots before the items of the chain are lowered, and a group lists the names of its
children, cut into alternatives, before these are lowered. Each time the chain is gone through once more, with a count
of its own. In a table without circles, placeholders and ends of alternatives may stand anywhere; the counts agree all
the same (`numbering_agrees`).
-/

namespace Utterance
set_option autoImplicit false

/-! ## Cutting -/

/-- The pieces of a list that is cut after every flagged member and nowhere else. After the last member there is nothing
to cut off, whether it is flagged or not. -/
structure IsCutAfter {α : Type} (flagged : α → Bool) (members : List α) (pieces : List (List α)) : Prop where
  flatten : pieces.flatten = members
  nonempty : ∀ piece ∈ pieces, piece ≠ []
  inside : ∀ piece ∈ pieces, ∀ a ∈ piece.dropLast, flagged a = false
  between : ∀ piece ∈ pieces.dropLast, ∀ a ∈ piece.getLast?, flagged a = true

section Cutting

variable {α : Type} {flagged : α → Bool} {a : α} {rest piece : List α} {pieces : List (List α)}

/-- A flagged member in front is a piece of its own. -/
theorem IsCutAfter.cut (later : IsCutAfter flagged rest pieces) (flag : flagged a = true) :
    IsCutAfter flagged (a :: rest) ([a] :: pieces) where
  flatten := by rw [List.flatten_cons, later.flatten, List.singleton_append]
  nonempty := List.forall_mem_cons.2 ⟨List.cons_ne_nil a [], later.nonempty⟩
  inside := List.forall_mem_cons.2 ⟨by simp, later.inside⟩
  between := by
    cases pieces with
    | nil => simp
    | cons piece others =>
      rw [List.dropLast_cons_cons]
      exact List.forall_mem_cons.2 ⟨by simp [flag], later.between⟩

/-- Any other member goes to the piece that follows. -/
theorem IsCutAfter.join (later : IsCutAfter flagged rest (piece :: pieces)) (flag : flagged a = false) :
    IsCutAfter flagged (a :: rest) ((a :: piece) :: pieces) := by
  obtain ⟨filled, nonempty⟩ := List.forall_mem_cons.1 later.nonempty
  obtain ⟨first, inside⟩ := List.forall_mem_cons.1 later.inside
  constructor
  case flatten => rw [List.flatten_cons, List.cons_append, ← List.flatten_cons, later.flatten]
  case nonempty => exact List.forall_mem_cons.2 ⟨List.cons_ne_nil a piece, nonempty⟩
  case inside =>
    refine List.forall_mem_cons.2 ⟨?_, inside⟩
    rw [List.dropLast_cons_of_ne_nil filled]
    exact List.forall_mem_cons.2 ⟨flag, first⟩
  case between =>
    have between := later.between
    cases pieces with
    | nil => simp
    | cons next others =>
      rw [List.dropLast_cons_cons] at between ⊢
      obtain ⟨last, between⟩ := List.forall_mem_cons.1 between
      rw [← List.getLast?_cons_of_ne_nil filled] at last
      exact List.forall_mem_cons.2 ⟨last, between⟩

theorem isCutAfter_splitAfter (flagged : α → Bool) (members : List α) :
    IsCutAfter flagged members (splitAfter (members.map fun a => (a, flagged a))) := by
  induction members with
  | nil => exact ⟨rfl, by simp [splitAfter], by simp [splitAfter], by simp [splitAfter]⟩
  | cons a rest ih =>
    rw [List.map_cons]
    cases flag : flagged a with
    | true => exact ih.cut flag
    | false =>
      rw [splitAfter]
      cases pieces : splitAfter (rest.map fun a => (a, flagged a)) with
      | nil =>
        have empty : rest = [] := by rw [← ih.flatten, pieces, List.flatten_nil]
        exact ⟨by simp [empty], by simp, by simp, by simp⟩
      | cons piece others =>
        rw [pieces] at ih
        exact ih.join flag

end Cutting

/-! ## Numbered nodes -/

/-- A node and the number that it is given. -/
structure NumberedNode where
  number : Int
  node : Node

/-- The nodes with the numbers from `number` on. -/
def numberFrom (number : Int) (nodes : List Node) : List NumberedNode :=
  nodes.zipIdx.map fun (node, position) => ⟨number + position, node⟩

theorem numberFrom_cons (number : Int) (node : Node) (rest : List Node) :
    numberFrom number (node :: rest) = ⟨number, node⟩ :: numberFrom (number + 1) rest := by
  have shift : ∀ position : Nat, number + ((position + 1 : Nat) : Int) = number + 1 + position := by omega
  simp only [numberFrom, List.zipIdx_cons', List.map_cons, List.map_map, Function.comp_def, Prod.map_fst, Prod.map_snd,
    id, shift, Int.natCast_zero, Int.add_zero]

theorem length_numberFrom (number : Int) (nodes : List Node) : (numberFrom number nodes).length = nodes.length := by
  simp [numberFrom]

/-- The content and the repetition of a node have a meaning. -/
def Node.IsKnown (node : Node) : Prop := node.leaf.IsKnown ∧ node.repetition.IsKnown

namespace NodeTable

/-- The nodes at the given indices that are no placeholders. -/
def occupied (table : NodeTable) (indices : List Nat) : List Node :=
  (indices.filterMap (table.nodes[·]?)).filter Node.isOccupied

/-- The same nodes, read from another link on. -/
def startingAt (table : NodeTable) (link : Option Nat) : NodeTable := { table with first := link }

/-- A node under its name. Its children, if there are any, are lowered under the name that the node goes on with. -/
def lowerNode [Limits] (table : NodeTable) (transliterate : Transliterator) (name : String) (node : Node) :
    Except LoweringFault (Grammar × Vocabulary) := do
  let repeats ← node.repetition.productions name
  let body := node.repetition.bodyName name
  if node.isGroup then
    let alternatives ← table.alternatives table.nodes.size body node.child
    let children ← (table.startingAt node.child).lower transliterate 0 (some body)
    return (repeats ++ alternatives ++ children.grammar, children.vocabulary)
  else
    let (grammar, vocabulary) ← node.leaf.lower transliterate body
    return (repeats ++ grammar, vocabulary)

/-- The given nodes one after the other, up to the first that cannot be lowered, each under the name that its number has
in a scope. -/
def lowerEach [Limits] (table : NodeTable) (transliterate : Transliterator) (scope : String) (given : List NumberedNode) :
    Except LoweringFault (Grammar × Vocabulary) := do
  let parts ← given.mapM fun item => do
    let name ← itemName scope item.number
    table.lowerNode transliterate name item.node
  return ((parts.map Prod.fst).flatten, (parts.map Prod.snd).flatten)

section Reading

variable {table : NodeTable} {i : Nat} {node : Node} {link : Option Nat} {indices : List Nat}

theorem unfold_startingAt (table : NodeTable) (first : Option Nat) (fuel : Nat) (link : Option Nat) :
    (table.startingAt first).unfold fuel link = table.unfold fuel link := by
  induction fuel generalizing link with
  | zero => cases link <;> simp only [NodeTable.unfold]
  | succ fuel ih =>
    cases link with
    | none => simp only [NodeTable.unfold]
    | some i =>
      have nodes : (table.startingAt first).nodes = table.nodes := rfl
      simp only [NodeTable.unfold, nodes, ih]

theorem chain_startingAt (table : NodeTable) (link : Option Nat) :
    (table.startingAt link).chain = table.chainAt link :=
  unfold_startingAt table link table.nodes.size link

theorem alternatives_eq_chainAt (name : String) (link : Option Nat) :
    table.alternatives table.nodes.size name link = (table.chainAt link).alternatives name :=
  table.alternatives_eq ..

theorem occupied_cons (found : table.nodes[i]? = some node) :
    table.occupied (i :: indices) =
      if node.isPlaceholder then table.occupied indices else node :: table.occupied indices := by
  cases placeholder : node.isPlaceholder <;> simp [occupied, found, Node.isOccupied, placeholder]

end Reading

/-! ## The counts -/

section Counts

variable {table : NodeTable} {link : Option Nat} {indices : List Nat}

/-- The count of the lists: placeholders have no number. -/
theorem numbers_chainAt (linked : table.IsLinked) (strung : Builder.Strung table.nodes link indices) (number : Int) :
    (table.chainAt link).numbers number = .ok ((numberFrom number (table.occupied indices)).map fun item =>
      (item.number, item.node.closesAlternative)) := by
  induction indices generalizing link number with
  | nil =>
    obtain rfl : link = none := strung
    rw [chainAt_none]
    rfl
  | cons i rest ih =>
    obtain ⟨rfl, node, found, strung⟩ := strung
    rw [chainAt_some linked found, occupied_cons found]
    cases node.isPlaceholder with
    | true => exact ih strung number
    | false =>
      simp only [Bool.false_eq_true, if_false, numberFrom_cons, List.map_cons]
      cases node.isGroup with
      | true => simp only [if_true, Chain.numbers, ih strung, Except.map]
      | false => simp only [Bool.false_eq_true, if_false, Chain.numbers, ih strung, Except.map]

theorem lowerEach_cons [Limits] (transliterate : Transliterator) (scope : String) (item : NumberedNode)
    (rest : List NumberedNode) :
    table.lowerEach transliterate scope (item :: rest) = (do
      let name ← itemName scope item.number
      let (grammar, vocabulary) ← table.lowerNode transliterate name item.node
      let (others, entries) ← table.lowerEach transliterate scope rest
      return (grammar ++ others, vocabulary ++ entries)) := by
  simp only [lowerEach, List.mapM_cons, bind_assoc, pure_bind, List.map_cons, List.flatten_cons]

/-- The count of the lowering: the nodes get the numbers that the lists have for them. -/
theorem lower_chainAt [Limits] (linked : table.IsLinked) (strung : Builder.Strung table.nodes link indices)
    (transliterate : Transliterator) (scope : String) (number : Int) :
    (table.chainAt link).lower transliterate scope number = (do
      let (grammar, vocabulary) ← table.lowerEach transliterate scope (numberFrom number (table.occupied indices))
      return ⟨grammar, vocabulary, number + (table.occupied indices).length⟩) := by
  induction indices generalizing link number with
  | nil =>
    obtain rfl : link = none := strung
    have next : number + ((table.occupied []).length : Int) = number := Int.add_zero number
    rw [chainAt_none, Chain.lower, next]
    rfl
  | cons i rest ih =>
    obtain ⟨rfl, node, found, strung⟩ := strung
    rw [chainAt_some linked found, occupied_cons found]
    cases node.isPlaceholder with
    | true => exact ih strung number
    | false =>
      have next :
          number + ((node :: table.occupied rest).length : Int) = number + 1 + (table.occupied rest).length := by
        rw [List.length_cons]
        omega
      simp only [Bool.false_eq_true, if_false, numberFrom_cons, lowerEach_cons, lowerNode, next]
      cases node.isGroup with
      | true =>
        simp only [if_true, Chain.lower, ih strung, alternatives_eq_chainAt, lower_eq_chain, chain_startingAt, bind_assoc,
          pure_bind]
      | false => simp only [Bool.false_eq_true, if_false, Chain.lower, ih strung, bind_assoc, pure_bind]

theorem exists_pieces_alternatives (linked : table.IsLinked) (strung : Builder.Strung table.nodes link indices)
    (name : String) : ∃ pieces,
      IsCutAfter (fun item => item.node.closesAlternative) (numberFrom 0 (table.occupied indices)) pieces ∧
      table.alternatives table.nodes.size name link =
        .ok (pieces.map fun piece => ⟨name, piece.map fun item => Name.child name item.number⟩) := by
  refine ⟨_, isCutAfter_splitAfter _ _, ?_⟩
  -- the members are cut before their numbers are taken; the other way around is the same
  have cut := splitAfter_map NumberedNode.number
    ((numberFrom 0 (table.occupied indices)).map fun item => (item, item.node.closesAlternative))
  simp only [List.map_map, Function.comp_def] at cut
  rw [alternatives_eq_chainAt, Chain.alternatives, numbers_chainAt linked strung]
  simp only [Except.map, cut, List.map_map, Function.comp_def]

theorem isKnown_chain (linked : table.IsLinked) (known : ∀ node ∈ table.nodes, node.IsKnown) :
    table.chain.IsKnown := by
  refine (within_size linked linked.first_lt).induction (motive := fun fuel link => (table.unfold fuel link).IsKnown)
    linked ?_ ?_
  · intro fuel
    rw [unfold_none]
    trivial
  · intro fuel i node found child next
    obtain ⟨content, repetition⟩ := known node (Array.mem_of_getElem? found)
    simp only [NodeTable.unfold, found]
    cases node.isPlaceholder with
    | true => exact next
    | false =>
      cases node.isGroup with
      | true => exact ⟨child, repetition, next⟩
      | false => exact ⟨content, repetition, next⟩

end Counts

/-! ## Lists and lowering -/

/-- A sentence lists its roots by the numbers of the given nodes, and these nodes are its words under these numbers. -/
structure RootsAgree [Limits] (table : NodeTable) (transliterate : Transliterator) (number : Int)
    (given : List NumberedNode) : Prop where
  listed : table.rootsFrom table.nodes.size [] number table.first = .ok (given.map NumberedNode.number)
  lowered : table.lower transliterate number =
    if given.all fun item => isWritable item.number then do
      let (grammar, vocabulary) ← table.lowerEach transliterate Name.wordScope given
      return ⟨rootProductions (given.map NumberedNode.number) ++ grammar, vocabulary, number + given.length⟩
    else .error .oversizedNumber

/-- A group of some name lists the names of the given nodes, with a cut after each that ends an alternative, and these
nodes are its children under these names. -/
structure ChildrenAgree [Limits] (table : NodeTable) (transliterate : Transliterator) (name : String) (child : Option Nat)
    (given : List NumberedNode) : Prop where
  listed : ∃ pieces, IsCutAfter (fun item => item.node.closesAlternative) given pieces ∧
    table.alternatives table.nodes.size name child =
      .ok (pieces.map fun piece => ⟨name, piece.map fun item => Name.child name item.number⟩)
  lowered : (table.startingAt child).lower transliterate 0 (some name) = do
    let (grammar, vocabulary) ← table.lowerEach transliterate name given
    return ⟨grammar, vocabulary, given.length⟩

section Agreement

variable {table : NodeTable} {link : Option Nat} {indices : List Nat}

theorem rootsAgree [Limits] (linked : table.IsLinked) (strung : Builder.Strung table.nodes table.first indices)
    (transliterate : Transliterator) (number : Int) :
    table.RootsAgree transliterate number (numberFrom number (table.occupied indices)) := by
  have numbers : table.chain.numbers number = pure _ := numbers_chainAt linked strung number
  have words : table.chain.lower transliterate Name.wordScope number = _ :=
    lower_chainAt linked strung transliterate Name.wordScope number
  refine ⟨?_, ?_⟩
  · rw [rootsFrom_eq, ← chain, numbers]
    simp only [pure, Except.pure, Except.map, List.map_map, List.nil_append, Function.comp_def]
  · simp only [lower_eq_sentence, Chain.sentence, numbers, words, length_numberFrom, List.map_map, List.all_map,
      Function.comp_def, bind_assoc, pure_bind]
    rfl

theorem childrenAgree [Limits] (linked : table.IsLinked) (strung : Builder.Strung table.nodes link indices)
    (transliterate : Transliterator) (name : String) :
    table.ChildrenAgree transliterate name link (numberFrom 0 (table.occupied indices)) := by
  refine ⟨exists_pieces_alternatives linked strung name, ?_⟩
  · rw [lower_eq_chain, chain_startingAt, lower_chainAt linked strung, length_numberFrom, Int.zero_add]

/-- In a table without circles, the occupied nodes of the top-level chain are the roots of the sentence and its words
under the same numbers, from `number` on and in their order. For every group, under any name, the occupied children are
listed in its alternatives and lowered under the same names, numbered from 0 on. If every kind has a meaning and every
literal has phones, only numbers and repetitions that do not fit keep the table from being lowered. -/
theorem numbering_agrees [Limits] (linked : table.IsLinked) (known : ∀ node ∈ table.nodes, node.IsKnown)
    {transliterate : Transliterator} (said : table.chain.Pronounceable transliterate) (number : Int) :
    (∃ indices, table.topLevel = .ok indices ∧
      table.RootsAgree transliterate number (numberFrom number (table.occupied indices))) ∧
    (∀ node ∈ table.nodes, node.isGroup → ∀ name, ∃ indices, table.siblings node.child = .ok indices ∧
      table.ChildrenAgree transliterate name node.child (numberFrom 0 (table.occupied indices))) ∧
    ((∃ lowered, table.lower transliterate number = .ok lowered) ↔ table.chain.Fits number) := by
  refine ⟨?_, ?_, exists_lower (isKnown_chain linked known) said none⟩
  · obtain ⟨indices, ends, strung⟩ := exists_strung linked linked.first_lt
    exact ⟨indices, ends, rootsAgree linked strung transliterate number⟩
  · intro node member _ name
    obtain ⟨i, found⟩ := Array.mem_iff_getElem?.1 member
    obtain ⟨indices, ends, strung⟩ :=
      exists_strung linked fun j link => linked.lt_of_leads i j (leads_child found j link)
    exact ⟨indices, ends, childrenAgree linked strung transliterate name⟩

end Agreement

/-- Two groups that share their last child, with placeholders and ends of alternatives in every place and with links to
nodes before and after. -/
def strewnTable : NodeTable where
  nodes := #[
    { next := some 4, closesAlternative := true },
    { content := "b", next := some 2, closesAlternative := true },
    { next := some 3, repetition := .zeroOrMore, closesAlternative := true },
    { content := "c", kind := .symbol, closesAlternative := true },
    { child := some 5, next := some 6, repetition := .oneOrMore, closesAlternative := true },
    { content := "a", next := some 1, repetition := .range (-2) 1 },
    { next := some 7 },
    { child := some 2 }]
  first := some 0

section
open scoped Workstation

theorem numbering_agrees_strewn :
    strewnTable.IsLinked ∧ (∀ node ∈ strewnTable.nodes, node.IsKnown) ∧
    strewnTable.chain.Pronounceable Transliterator.verbatim ∧
    strewnTable.RootsAgree Transliterator.verbatim (-1) (numberFrom (-1) (strewnTable.occupied [0, 4, 6, 7])) ∧
    strewnTable.ChildrenAgree Transliterator.verbatim "WORD_-1_LOOP" (some 5)
      (numberFrom 0 (strewnTable.occupied [5, 1, 2, 3])) ∧
    strewnTable.alternatives strewnTable.nodes.size "WORD_-1_LOOP" (some 5) =
      .ok [⟨"WORD_-1_LOOP", ["WORD_-1_LOOP_0", "WORD_-1_LOOP_1"]⟩, ⟨"WORD_-1_LOOP", ["WORD_-1_LOOP_2"]⟩] ∧
    strewnTable.chain.Fits (-1) := by
  have descends : strewnTable.descends ([7, 2, 1, 0, 4, 3, 3, 2].getD · 0) = true := by decide
  have linked := isLinked_of_descends descends
  have known : ∀ node ∈ strewnTable.nodes, node.IsKnown := by
    simp [strewnTable, Node.IsKnown, Node.leaf, Leaf.IsKnown, Repetition.IsKnown]
  have said : strewnTable.chain.Pronounceable Transliterator.verbatim := fun text _ => ⟨text, rfl⟩
  have returns : (strewnTable.lower Transliterator.verbatim (-1)).toOption.isSome = true := by decide +kernel
  obtain ⟨⟨indices, top, roots⟩, groups, fits⟩ := numbering_agrees linked known said (-1)
  obtain ⟨inside, below, children⟩ := groups _ (Array.mem_of_getElem? (i := 4) rfl) rfl "WORD_-1_LOOP"
  obtain rfl : [0, 4, 6, 7] = indices := Except.ok.inj top
  obtain rfl : [5, 1, 2, 3] = inside := Except.ok.inj below
  refine ⟨linked, known, said, roots, children, by decide, fits.1 ?_⟩
  cases lowers : strewnTable.lower Transliterator.verbatim (-1) with
  | error fault => simp [lowers, Except.toOption] at returns
  | ok lowered => exact ⟨lowered, rfl⟩

end

end NodeTable

end Utterance
