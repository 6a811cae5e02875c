import Utterance.Proofs.Accepted
import Utterance.Proofs.Dumping

/-!
# Reading a dump

The dump of a parsed pattern shows all of its table but the places. A reader takes the text apart into the chain that
the table denotes (`ofDump_dump`), and the nodes of a parsed pattern are laid out in the only way that its chain can be
(`unplaced_eq_table`). So parsed patterns are dumped alike exactly if their tables are alike (`dump_eq_dump_iff`).
-/

namespace Utterance
set_option autoImplicit false

/-! ## The reader -/

/-- Nothing is in the chain. -/
def Chain.isEnd : Chain → Bool
  | .nil => true
  | _ => false

namespace Sexp

/-- The repetition that is shown so. -/
def repeated? : Sexp → Option Repetition
  | .cons (.symbol kind) .nil =>
    if kind = "zero-or-more" then some .zeroOrMore
    else if kind = "one-or-more" then some .oneOrMore
    else none
  | .cons (.symbol kind) (.cons (.number least) (.cons (.number most) .nil)) =>
    if kind = "range" then some (.range least most) else none
  | _ => none

/-- The repetition at the end of an item. -/
def repetition? : Sexp → Option Repetition
  | .nil => some .once
  | .cons mark (.cons form .nil) => if mark = repeatMark then form.repeated? else none
  | _ => none

/-- The content of a leaf of a kind, and its repetition. -/
def leaf? (kind : String) : Sexp → Option (Leaf × Repetition)
  | .cons (.text content) rest =>
    if kind = "literal" then rest.repetition?.map fun repetition => (.literal content, repetition)
    else if kind = "symbol" then rest.repetition?.map fun repetition => (.symbol content, repetition)
    else none
  | _ => none

mutual

/-- The item in front of a chain. -/
def item? : Sexp → (closes : Bool) → (next : Chain) → Option Chain
  | .cons (.symbol kind) rest, closes, next =>
    if kind = "group" then rest.alternatives?.map fun (inner, repetition) => .group inner repetition closes next
    else (rest.leaf? kind).map fun (content, repetition) => .leaf content repetition closes next
  | _, _, _ => none

/-- The alternatives of a group and its repetition. An alternative is closed where another one follows. -/
def alternatives? : Sexp → Option (Chain × Repetition)
  | .cons (.cons mark items) rest =>
    if mark = .symbol "alt" then
      rest.alternatives?.bind fun (after, repetition) =>
        (items.items? (!after.isEnd) after).map fun chain => (chain, repetition)
    else none
  | rest => rest.repetition?.map fun repetition => (.nil, repetition)

/-- The items of a list in front of a chain; the last of them may end an alternative. -/
def items? : Sexp → (closes : Bool) → (next : Chain) → Option Chain
  | .cons item rest, closes, next =>
    if rest = .nil then item.item? closes next
    else (rest.items? closes next).bind fun after => item.item? false after
  | _, _, _ => none

end

end Sexp

/-- The chain that a dump shows. -/
def Chain.ofDump (text : String) : Option Chain :=
  match Sexp.read text.toList with
  | some (.cons mark items) => if mark = .symbol "pattern" then items.items? false .nil else none
  | _ => none

/-! ## Items -/

theorem Repetition.exists_tail {repetition : Repetition} {core : List Sexp} {item : Sexp}
    (attached : repetition.attach core = .ok item) : ∃ tail, item = .ofList (core ++ tail) ∧
      (Sexp.ofList tail).repetition? = some repetition ∧ (Sexp.ofList tail).alternatives? = some (.nil, repetition) := by
  obtain ⟨form, formed, rfl⟩ := map_eq_ok_iff.1 attached
  cases repetition with
  | once =>
    cases formed
    exact ⟨[], by rw [List.append_nil], rfl, rfl⟩
  | range least most =>
    cases formed
    exact ⟨[repeatMark, _], rfl, rfl, rfl⟩
  | zeroOrMore =>
    cases formed
    exact ⟨[repeatMark, _], rfl, rfl, rfl⟩
  | oneOrMore =>
    cases formed
    exact ⟨[repeatMark, _], rfl, rfl, rfl⟩
  | other kind least most => cases formed

theorem splitAfter_last {α : Type} (front : List α) (last : α) :
    splitAfter (front.map (fun a => (a, false)) ++ [(last, false)]) = [front ++ [last]] := by
  have whole := splitAfter_open (front ++ [last])
  rw [List.map_append] at whole
  simpa using whole

namespace Pattern

/-- An alternative as it is shown. -/
def shownAlternative (items : List Sexp) : Sexp := .cons (.symbol "alt") (.ofList items)

theorem Item.isEnd_chain (item : Item Atom Unit Repeat) (closes : Bool) (next : Chain) :
    (item.chain closes next).isEnd = false := by
  cases item <;> rfl

theorem Phrase.isEnd_chain (phrase : Phrase Atom Unit Repeat) (closes : Bool) (next : Chain) :
    (phrase.chain closes next).isEnd = false := by
  cases phrase with
  | last item => exact item.isEnd_chain closes next
  | cons item rest => exact item.isEnd_chain false (rest.chain closes next)

theorem Choice.isEnd_chain (choice : Choice Atom Unit Repeat) : choice.chain.isEnd = false := by
  cases choice with
  | last phrase => exact phrase.isEnd_chain false .nil
  | cons phrase rest => exact phrase.isEnd_chain true rest.chain

theorem Atom.item?_leaf {atom : Atom} {core : List Sexp} (formed : atom.leaf.form = .ok core) {tail : List Sexp}
    {repetition : Repetition} (repeated : (Sexp.ofList tail).repetition? = some repetition) (closes : Bool) (next : Chain) :
    (Sexp.ofList (core ++ tail)).item? closes next = some (.leaf atom.leaf repetition closes next) := by
  cases atom with
  | literal text =>
    cases formed
    simp [Sexp.ofList, Sexp.item?, Sexp.leaf?, repeated, Atom.leaf]
  | symbol name =>
    cases formed
    simp [Sexp.ofList, Sexp.item?, Sexp.leaf?, repeated, Atom.leaf]

theorem alternatives?_shownAlternative {items : List Sexp} {rest : Sexp} {after chain : Chain} {repetition : Repetition}
    (later : rest.alternatives? = some (after, repetition))
    (read : (Sexp.ofList items).items? (!after.isEnd) after = some chain) :
    (Sexp.cons (shownAlternative items) rest).alternatives? = some (chain, repetition) := by
  rw [shownAlternative, Sexp.alternatives?, if_pos rfl, later]
  simp only [Option.bind_some, read, Option.map_some]

mutual

/-- What is shown of an item can be read in front of any chain. -/
theorem Item.exists_form : (item : Item Atom Unit Repeat) → {closes : Bool} → {next : Chain} →
    {forms : List (Sexp × Bool)} → (item.chain closes next).forms = .ok forms → ∃ form rest,
      forms = (form, closes) :: rest ∧ next.forms = .ok rest ∧
        ∀ closes next, form.item? closes next = some (item.chain closes next)
  | .atom content repeated, closes, next, forms, formed => by
    obtain ⟨core, form, rest, isCore, attached, more, rfl⟩ := Chain.forms_leaf_eq_ok_iff.1 formed
    obtain ⟨tail, rfl, isRepetition, _⟩ := Repetition.exists_tail attached
    exact ⟨_, rest, rfl, more, fun closes next => Atom.item?_leaf isCore isRepetition closes next⟩
  | .group label inner repeated, closes, next, forms, formed => by
    obtain ⟨children, form, rest, inside, attached, more, rfl⟩ := Chain.forms_group_eq_ok_iff.1 formed
    obtain ⟨tail, rfl, _, noMore⟩ := Repetition.exists_tail attached
    refine ⟨_, rest, rfl, more, fun closes next => ?_⟩
    have read : (Sexp.ofList ((splitAfter children).map shownAlternative ++ tail)).alternatives? =
      some (inner.chain, Repeat.repetition repeated) := Choice.alternatives?_forms inner inside noMore
    have opening : Sexp.ofList (groupCore children ++ tail) =
      .cons (.symbol "group") (.ofList ((splitAfter children).map shownAlternative ++ tail)) := rfl
    rw [opening, Sexp.item?, if_pos rfl, read]
    rfl

theorem Phrase.exists_forms : (phrase : Phrase Atom Unit Repeat) → {closes : Bool} → {next : Chain} →
    {forms : List (Sexp × Bool)} → (phrase.chain closes next).forms = .ok forms → ∃ front last rest,
      forms = front.map (fun form => (form, false)) ++ (last, closes) :: rest ∧ next.forms = .ok rest ∧
        ∀ closes next, (Sexp.ofList (front ++ [last])).items? closes next = some (phrase.chain closes next)
  | .last item, closes, next, forms, formed => by
    obtain ⟨form, rest, rfl, more, read⟩ := Item.exists_form item formed
    refine ⟨[], form, rest, rfl, more, fun closes next => ?_⟩
    rw [List.nil_append, Sexp.ofList, Sexp.ofList, Sexp.items?, if_pos rfl]
    exact read closes next
  | .cons item others, closes, next, forms, formed => by
    obtain ⟨form, rest, rfl, more, read⟩ := Item.exists_form item formed
    obtain ⟨front, last, beyond, rfl, after, readOthers⟩ := Phrase.exists_forms others more
    refine ⟨form :: front, last, beyond, rfl, after, fun closes next => ?_⟩
    have goesOn : Sexp.ofList (front ++ [last]) ≠ .nil := by cases front <;> exact Sexp.noConfusion
    rw [List.cons_append, Sexp.ofList, Sexp.items?, if_neg goesOn, readOthers closes next]
    exact read false (others.chain closes next)

theorem Choice.alternatives?_forms : (choice : Choice Atom Unit Repeat) → {forms : List (Sexp × Bool)} →
    {tail : List Sexp} → {repetition : Repetition} → choice.chain.forms = .ok forms →
    (Sexp.ofList tail).alternatives? = some (.nil, repetition) →
    (Sexp.ofList ((splitAfter forms).map shownAlternative ++ tail)).alternatives? = some (choice.chain, repetition)
  | .last phrase, forms, tail, repetition, formed, noMore => by
    obtain ⟨front, last, rest, rfl, more, read⟩ := Phrase.exists_forms phrase formed
    cases more
    rw [splitAfter_last, List.map_singleton, List.singleton_append, Sexp.ofList]
    exact alternatives?_shownAlternative noMore (read false .nil)
  | .cons phrase others, forms, tail, repetition, formed, noMore => by
    obtain ⟨front, last, rest, rfl, more, read⟩ := Phrase.exists_forms phrase formed
    have later := Choice.alternatives?_forms others more noMore
    rw [splitAfter_closed, List.map_cons, List.cons_append, Sexp.ofList]
    refine alternatives?_shownAlternative later ?_
    rw [Choice.isEnd_chain]
    exact read true others.chain

end

/-- The chain of a parsed pattern can be read off its dump. -/
theorem ofDump_dump [Limits] {source : Source} {table : NodeTable} (accepted : parse source = .ok table) {text : String}
    (dumped : table.dump = .ok text) : Chain.ofDump text = some table.chain := by
  obtain ⟨expression, _, denotes⟩ := exists_spelledBy_of_parse accepted
  obtain ⟨forms, formed, rfl⟩ := NodeTable.dump_eq_ok_iff.1 dumped
  have read := Sexp.read_render (Chain.isReadable_pattern formed)
  rw [denotes] at formed ⊢
  obtain ⟨front, last, rest, rfl, more, items⟩ := Phrase.exists_forms expression formed
  cases more
  have shown : (front.map (fun form => (form, false)) ++ [(last, false)]).map Prod.fst = front ++ [last] := by
    simp [Function.comp_def]
  rw [Chain.ofDump, read]
  simp only [if_true]
  rw [shown]
  exact items false .nil

end Pattern

/-! ## The layout of a chain -/

/-- The node without its place. -/
def Node.unplaced (node : Node) : Node := { node with location := none }

/-- The table without the places of its nodes. -/
def NodeTable.unplaced (table : NodeTable) : NodeTable := { table with nodes := table.nodes.map Node.unplaced }

/-- The node of a leaf, without repetition and links. -/
def Leaf.node : Leaf → Node
  | .literal text => { content := text, kind := .literal }
  | .symbol name => { content := name, kind := .symbol }
  | .other kind => { kind := .other kind }

namespace Chain

/-- The number of nodes of a chain. -/
def size : Chain → Nat
  | .nil => 0
  | .broken _ => 0
  | .leaf _ _ _ next => next.size + 1
  | .group inner _ _ next => inner.size + 1 + next.size

/-- The link to a chain that starts at an index. -/
def link (chain : Chain) (index : Nat) : Option Nat :=
  if chain.isEnd then none else some index

/-- The nodes of a chain that starts at an index. -/
def nodes : Chain → (index : Nat) → (parent : Option Nat) → List Node
  | .nil, _, _ => []
  | .broken _, _, _ => []
  | .leaf content repetition closes next, index, parent =>
    Pattern.placed content.node repetition parent closes (next.link (index + 1)) :: next.nodes (index + 1) parent
  | .group inner repetition closes next, index, parent =>
    Pattern.placed (Pattern.groupNode none (index + 1)) repetition parent closes (next.link (index + 1 + inner.size)) ::
      (inner.nodes (index + 1) (some index) ++ next.nodes (index + 1 + inner.size) parent)

/-- The table of a chain. -/
def table (chain : Chain) : NodeTable :=
  ⟨(chain.nodes 0 none).toArray, chain.link 0⟩

end Chain

/-- The table that a dump shows. -/
def NodeTable.ofDump (text : String) : Option NodeTable :=
  (Chain.ofDump text).map Chain.table

theorem NodeTable.unfold_unplaced (table : NodeTable) (fuel : Nat) (link : Option Nat) :
    table.unplaced.unfold fuel link = table.unfold fuel link := by
  induction fuel generalizing link with
  | zero => cases link <;> rfl
  | succ fuel ih =>
    cases link with
    | none => rfl
    | some index =>
      have found : table.unplaced.nodes[index]? = (table.nodes[index]?).map Node.unplaced := Array.getElem?_map ..
      rw [NodeTable.unfold, NodeTable.unfold, found]
      cases table.nodes[index]? with
      | none => rfl
      | some node =>
        simp only [Option.map_some, ih]
        rfl

theorem NodeTable.chain_unplaced (table : NodeTable) : table.unplaced.chain = table.chain := by
  have size : table.unplaced.nodes.size = table.nodes.size := Array.size_map ..
  rw [NodeTable.chain, size, NodeTable.unfold_unplaced]
  rfl

namespace Pattern

mutual

theorem Item.size_chain : (item : Item WrittenAtom Nat WrittenRepeat) → (closes : Bool) → (next : Chain) →
    (item.meaning.chain closes next).size = item.size + next.size
  | .atom _ _, _, _ => Nat.add_comm ..
  | .group _ inner _, _, next => congrArg (· + 1 + next.size) (Choice.size_chain inner)

theorem Phrase.size_chain : (phrase : Phrase WrittenAtom Nat WrittenRepeat) → (closes : Bool) → (next : Chain) →
    (phrase.meaning.chain closes next).size = phrase.size + next.size
  | .last item, closes, next => Item.size_chain item closes next
  | .cons item rest, closes, next => by
    have others := Phrase.size_chain rest closes next
    have all := Item.size_chain item false (rest.meaning.chain closes next)
    rw [others, ← Nat.add_assoc] at all
    exact all

theorem Choice.size_chain : (choice : Choice WrittenAtom Nat WrittenRepeat) → choice.meaning.chain.size = choice.size
  | .last phrase => Phrase.size_chain phrase false .nil
  | .cons phrase rest => by
    have all := Phrase.size_chain phrase true rest.meaning.chain
    rw [Choice.size_chain rest] at all
    exact all

end

section Nodes

variable (source : Source)

theorem WrittenAtom.unplaced_placed (atom : WrittenAtom) (repetition : Repetition) (parent : Option Nat) (closes : Bool)
    (next : Option Nat) : (placed (atom.node source) repetition parent closes next).unplaced =
      placed atom.meaning.leaf.node repetition parent closes next := by
  cases atom <;> rfl

theorem Phrase.link_chain (phrase : Phrase Atom Unit Repeat) (closes : Bool) (next : Chain) (index : Nat) :
    (phrase.chain closes next).link index = some index := by
  rw [Chain.link, Phrase.isEnd_chain]
  rfl

theorem Choice.link_chain (choice : Choice Atom Unit Repeat) (index : Nat) : choice.chain.link index = some index := by
  rw [Chain.link, Choice.isEnd_chain]
  rfl

mutual

/-- The nodes of a written item are laid out as those of its chain. -/
theorem Item.nodes_chain : (item : Item WrittenAtom Nat WrittenRepeat) → (index : Nat) → (parent : Option Nat) →
    (closes : Bool) → (chain : Chain) → (item.meaning.chain closes chain).nodes index parent =
      (item.nodes source index parent closes (chain.link (index + item.size))).map Node.unplaced ++
        chain.nodes (index + item.size) parent
  | .atom content repeated, index, parent, closes, chain => by
    rw [Item.nodes, List.map_singleton, content.unplaced_placed]
    rfl
  | .group column inner repeated, index, parent, closes, chain => by
    have inside := Choice.nodes_chain inner (index + 1) (some index)
    have size : index + (Item.group column inner repeated).size = index + 1 + inner.meaning.chain.size := by
      rw [Choice.size_chain, Item.size]
      omega
    rw [Item.nodes, List.map_cons, ← inside, size, List.cons_append]
    rfl

theorem Phrase.nodes_chain : (phrase : Phrase WrittenAtom Nat WrittenRepeat) → (index : Nat) → (parent : Option Nat) →
    (closes : Bool) → (chain : Chain) → (phrase.meaning.chain closes chain).nodes index parent =
      (phrase.nodes source index parent closes (chain.link (index + phrase.size))).map Node.unplaced ++
        chain.nodes (index + phrase.size) parent
  | .last item, index, parent, closes, chain => Item.nodes_chain item index parent closes chain
  | .cons item rest, index, parent, closes, chain => by
    have first := Item.nodes_chain item index parent false (rest.meaning.chain closes chain)
    have others := Phrase.nodes_chain rest (index + item.size) parent closes chain
    have size : index + (Phrase.cons item rest).size = index + item.size + rest.size := by
      rw [Phrase.size]
      omega
    rw [others, Phrase.link_chain, ← List.append_assoc, ← List.map_append, ← size] at first
    exact first

theorem Choice.nodes_chain : (choice : Choice WrittenAtom Nat WrittenRepeat) → (index : Nat) → (parent : Option Nat) →
    choice.meaning.chain.nodes index parent = (choice.nodes source index parent).map Node.unplaced
  | .last phrase, index, parent => by
    have nodes := Phrase.nodes_chain phrase index parent false .nil
    rw [Chain.nodes, List.append_nil] at nodes
    exact nodes
  | .cons phrase rest, index, parent => by
    have first := Phrase.nodes_chain phrase index parent true rest.meaning.chain
    rw [Choice.nodes_chain rest, Choice.link_chain, ← List.map_append] at first
    exact first

end

end Nodes

/-- The table of a parsed pattern is laid out in the only way that its chain can be. -/
theorem unplaced_eq_table [Limits] {source : Source} {table : NodeTable} (accepted : parse source = .ok table) :
    table.unplaced = table.chain.table := by
  obtain ⟨written, proper, _, rfl⟩ := exists_written_of_parse accepted
  have chain := chain_table (content_ne_empty_of_isProper proper source)
  have nodes := Phrase.nodes_chain source written 0 none false .nil
  have first : (written.meaning.chain false .nil).link 0 = some 0 := Phrase.link_chain written.meaning false .nil 0
  rw [Chain.nodes, List.append_nil] at nodes
  rw [chain, Chain.table, nodes, first, NodeTable.unplaced, Written.table, List.map_toArray]
  rfl

theorem exists_dump [Limits] {source : Source} {table : NodeTable} (accepted : parse source = .ok table) :
    ∃ text, table.dump = .ok text ∧ NodeTable.ofDump text = some table.unplaced := by
  obtain ⟨forms, formed⟩ := Chain.exists_forms (isKnown_of_parse accepted)
  have dumped := NodeTable.dump_eq_ok_iff.2 ⟨forms, formed, rfl⟩
  refine ⟨_, dumped, ?_⟩
  rw [NodeTable.ofDump, ofDump_dump accepted dumped, unplaced_eq_table accepted]
  rfl

/-- The table of a parsed pattern can be read off its dump, apart from the places of its nodes. Two such patterns are
dumped alike exactly if their tables differ in places only. -/
theorem dump_eq_dump_iff [Limits] {one other : Source} {first second : NodeTable} (accepted : parse one = .ok first)
    (acceptedToo : parse other = .ok second) :
    (∃ text, first.dump = .ok text ∧ NodeTable.ofDump text = some first.unplaced) ∧
      (first.dump = second.dump ↔ first.unplaced = second.unplaced) := by
  obtain ⟨text, dumped, read⟩ := exists_dump accepted
  obtain ⟨textToo, dumpedToo, readToo⟩ := exists_dump acceptedToo
  refine ⟨⟨text, dumped, read⟩, ?_, ?_⟩
  · intro same
    obtain rfl : text = textToo := Except.ok.inj (dumped.symm.trans (same.trans dumpedToo))
    exact Option.some.inj (read.symm.trans readToo)
  · intro same
    have chains := congrArg NodeTable.chain same
    rw [first.chain_unplaced, second.chain_unplaced] at chains
    rw [NodeTable.dump_eq_form, NodeTable.dump_eq_form, chains]

/-- A quote, a backslash and a control character in a group, spelled in two ways. -/
def tightSource : Source := ⟨"('\\\\\"\x08'|<b>+)\x7b2,3\x7d'c'", "example", 1⟩

def looseSource : Source := ⟨" ( \"\\\\\\\"\x08\" | < b > + ) \x7b 02 , 3 \x7d \"c\"", "example", 2⟩

section
open scoped Workstation

theorem dump_eq_dump_iff_respelled : ∃ first second, parse tightSource = .ok first ∧ parse looseSource = .ok second ∧
    first ≠ second ∧ first.unplaced = second.unplaced ∧
    first.dump = .ok ("(pattern (group (alt (literal \"\\\\\\\"\\b\")) (alt (symbol \"b\" :repeat (one-or-more))) " ++
      ":repeat (range 2 3)) (literal \"c\"))") ∧
    ∃ text, first.dump = .ok text ∧ NodeTable.ofDump text = some first.unplaced :=
  have reads := @dump_eq_dump_iff _ tightSource looseSource _ _ rfl rfl
  ⟨_, _, rfl, rfl, by decide +kernel, reads.2.1 (by decide +kernel), by decide +kernel, reads.1⟩

end

end Pattern

end Utterance
