import Utterance.Grammar.Lowering
import Utterance.Node.Dump
import Utterance.Proofs.Basic

/-!
# Reading a table along its links

The loops over the links of a table say the same as recursions over the chain that it denotes: `lower_eq_sentence`,
`lower_eq_chain` and `dump_eq_form`. The chain has no placeholders and no indices, so everything that is proved of what
a table is lowered to and dumped as is proved of its chain. Nothing is asked of the links; where they leave the table or
run in a circle, the loops and the recursions fail alike.
-/

namespace Utterance
set_option autoImplicit false

/-! ## Recursions over a chain -/

/-- The numbers of the items of a chain, counted from `number`, each with whether it ends its alternative. -/
def Chain.numbers : (number : Int) → Chain → Except LoweringFault (List (Int × Bool))
  | _, .nil => .ok []
  | _, .broken index => .error (.outOfTable index)
  | number, .leaf _ _ closes next => (next.numbers (number + 1)).map ((number, closes) :: ·)
  | number, .group _ _ closes next => (next.numbers (number + 1)).map ((number, closes) :: ·)

/-- The productions of a group, one for each alternative of its chain. -/
def Chain.alternatives (name : String) (inner : Chain) : Except LoweringFault (List Production) :=
  (inner.numbers 0).map fun numbers =>
    (splitAfter numbers).map fun alternative => ⟨name, alternative.map (Name.child name)⟩

/-- The items of a chain in a scope, numbered from `number`. -/
def Chain.lower [Limits] (transliterate : Transliterator) : (scope : String) → (number : Int) → Chain →
    Except LoweringFault Lowered
  | _, number, .nil => .ok ⟨[], [], number⟩
  | _, _, .broken index => .error (.outOfTable index)
  | scope, number, .leaf content repetition _ next => do
    let name ← itemName scope number
    let repeats ← repetition.productions name
    let (grammar, vocabulary) ← content.lower transliterate (repetition.bodyName name)
    let rest ← next.lower transliterate scope (number + 1)
    return ⟨repeats ++ grammar ++ rest.grammar, vocabulary ++ rest.vocabulary, rest.nextNumber⟩
  | scope, number, .group inner repetition _ next => do
    let name ← itemName scope number
    let body := repetition.bodyName name
    let repeats ← repetition.productions name
    let alternatives ← inner.alternatives body
    let children ← inner.lower transliterate body 0
    let rest ← next.lower transliterate scope (number + 1)
    return ⟨repeats ++ alternatives ++ children.grammar ++ rest.grammar, children.vocabulary ++ rest.vocabulary,
      rest.nextNumber⟩

/-- A top-level chain, numbered from `number`: its roots and its words. -/
def Chain.sentence [Limits] (transliterate : Transliterator) (number : Int) (chain : Chain) :
    Except LoweringFault Lowered := do
  let numbers := (← chain.numbers number).map Prod.fst
  if numbers.all isWritable then
    let words ← chain.lower transliterate Name.wordScope number
    return { words with grammar := rootProductions numbers ++ words.grammar }
  else throw .oversizedNumber

/-- The expressions of the items of a chain, each with whether it ends its alternative. -/
def Chain.forms : Chain → Except TableFault (List (Sexp × Bool))
  | .nil => .ok []
  | .broken index => .error (.outOfTable index)
  | .leaf content repetition closes next => do
    let item ← repetition.attach (← content.form)
    let rest ← next.forms
    return (item, closes) :: rest
  | .group inner repetition closes next => do
    let children ← inner.forms
    let alternatives := (splitAfter children).map fun items => Sexp.cons (.symbol "alt") (.ofList items)
    let item ← repetition.attach (.symbol "group" :: alternatives)
    let rest ← next.forms
    return (item, closes) :: rest

/-- The expression of a whole chain. -/
def Chain.form (chain : Chain) : Except TableFault Sexp :=
  chain.forms.map fun items => .cons (.symbol "pattern") (.ofList (items.map Prod.fst))

/-! ## Collecting alternatives -/

section Collected

variable {α : Type}

theorem splitAfter_open (items : List α) : splitAfter (items.map (·, false)) = [items].filter (!·.isEmpty) := by
  induction items with
  | nil => rfl
  | cons item rest ih =>
    rw [List.map_cons, splitAfter, ih]
    cases rest <;> rfl

theorem splitAfter_closed (items : List α) (item : α) (rest : List (α × Bool)) :
    splitAfter (items.map (·, false) ++ (item, true) :: rest) = (items ++ [item]) :: splitAfter rest := by
  induction items with
  | nil => rfl
  | cons first others ih => rw [List.map_cons, List.cons_append, splitAfter, ih]; rfl

/-- More items, one after the other, each with whether it completes its alternative. -/
def Collected.addAll (collected : Collected α) (members : List (α × Bool)) : Collected α :=
  members.foldl (fun collected member => collected.add member.1 member.2) collected

theorem Collected.alternatives_addAll (collected : Collected α) (members : List (α × Bool)) :
    (collected.addAll members).alternatives =
      collected.complete.filter (!·.isEmpty) ++ splitAfter (collected.current.map (·, false) ++ members) := by
  induction members generalizing collected with
  | nil => rw [addAll, List.foldl_nil, List.append_nil, splitAfter_open, Collected.alternatives, List.filter_append]
  | cons member rest ih =>
    obtain ⟨item, closes⟩ := member
    rw [addAll, List.foldl_cons]
    refine (ih _).trans ?_
    cases closes with
    | true => simp [Collected.add, splitAfter_closed]
    | false => simp [Collected.add]

/-- What is collected is cut where items complete their alternatives. -/
theorem Collected.alternatives_addAll_new (members : List (α × Bool)) :
    (addAll {} members).alternatives = splitAfter members :=
  Collected.alternatives_addAll {} members

end Collected

/-! ## Loops over the links -/

section Outcome

variable {ε α β γ : Type}

theorem map_map_outcome (step : Except ε α) (change : α → β) (more : β → γ) :
    (step.map change).map more = step.map (more ∘ change) := by
  cases step <;> rfl

theorem map_bind_outcome (step : Except ε α) (next : α → Except ε β) (change : β → γ) :
    (step >>= next).map change = step >>= fun value => (next value).map change := by
  cases step <;> rfl

end Outcome

/-- What was lowered first and what was lowered after it. -/
def Lowered.append (before after : Lowered) : Lowered where
  grammar := before.grammar ++ after.grammar
  vocabulary := before.vocabulary ++ after.vocabulary
  nextNumber := after.nextNumber

/-- The item that a node is, in front of others. -/
def Node.item (node : Node) (inner next : Chain) : Chain :=
  if node.isGroup then .group inner node.repetition node.closesAlternative next
  else .leaf node.leaf node.repetition node.closesAlternative next

theorem Chain.numbers_item (node : Node) (inner next : Chain) (number : Int) :
    (node.item inner next).numbers number =
      (next.numbers (number + 1)).map ((number, node.closesAlternative) :: ·) := by
  rw [Node.item]
  split <;> rfl

/-- An item is lowered under its name, and the others after it. -/
theorem Chain.lower_item [Limits] (transliterate : Transliterator) (node : Node) (inner next : Chain) (scope : String)
    (number : Int) :
    (node.item inner next).lower transliterate scope number = (do
      let name ← itemName scope number
      let repeats ← node.repetition.productions name
      let body := node.repetition.bodyName name
      let (grammar, vocabulary) ← (
        if node.isGroup then do
          let alternatives ← inner.alternatives body
          let nested ← inner.lower transliterate body 0
          return (alternatives ++ nested.grammar, nested.vocabulary)
        else node.leaf.lower transliterate body)
      let rest ← next.lower transliterate scope (number + 1)
      return ⟨repeats ++ grammar ++ rest.grammar, vocabulary ++ rest.vocabulary, rest.nextNumber⟩) := by
  rw [Node.item]
  split <;> simp [Chain.lower]

/-- An item is dumped with its alternatives, and the others after it. -/
theorem Chain.forms_item (node : Node) (inner next : Chain) :
    (node.item inner next).forms = (do
      let item ← node.form (inner.forms.map splitAfter)
      let rest ← next.forms
      return (item, node.closesAlternative) :: rest) := by
  rw [Node.item, Node.form]
  split
  · cases forms : inner.forms <;> simp [Chain.forms, forms, Except.map, Bind.bind, Except.bind]
  · simp [Chain.forms]

namespace NodeTable

variable (table : NodeTable)

/-- A loop over the links stops, with or without a fault, or goes on after a placeholder or an item. -/
theorem link_induction {motive : Nat → Option Nat → Prop} (finished : ∀ fuel, motive fuel none)
    (spent : ∀ index, motive 0 (some index))
    (missing : ∀ fuel index, table.nodes[index]? = none → motive (fuel + 1) (some index))
    (skipped : ∀ fuel index node, table.nodes[index]? = some node → node.isPlaceholder = true →
      motive fuel node.next → motive (fuel + 1) (some index))
    (item : ∀ fuel index node, table.nodes[index]? = some node → node.isPlaceholder = false →
      motive fuel node.child → motive fuel node.next → motive (fuel + 1) (some index))
    (fuel : Nat) (link : Option Nat) : motive fuel link := by
  induction fuel generalizing link with
  | zero =>
    cases link with
    | none => exact finished 0
    | some index => exact spent index
  | succ fuel ih =>
    cases link with
    | none => exact finished (fuel + 1)
    | some index =>
      cases found : table.nodes[index]? with
      | none => exact missing fuel index found
      | some node =>
        cases placeholder : node.isPlaceholder with
        | true => exact skipped fuel index node found placeholder (ih node.next)
        | false => exact item fuel index node found placeholder (ih node.child) (ih node.next)

section Unfold

variable {table} {fuel index : Nat} {node : Node}

theorem unfold_of_missing (missing : table.nodes[index]? = none) :
    table.unfold (fuel + 1) (some index) = .broken index := by
  rw [unfold, missing]

theorem unfold_of_placeholder (found : table.nodes[index]? = some node) (placeholder : node.isPlaceholder = true) :
    table.unfold (fuel + 1) (some index) = table.unfold fuel node.next := by
  rw [unfold, found]
  exact if_pos placeholder

theorem unfold_of_item (found : table.nodes[index]? = some node) (occupied : node.isPlaceholder = false) :
    table.unfold (fuel + 1) (some index) = node.item (table.unfold fuel node.child) (table.unfold fuel node.next) := by
  rw [unfold, found]
  simp only [occupied, Bool.false_eq_true, if_false]
  rfl

end Unfold

theorem rootsFrom_eq (fuel : Nat) (link : Option Nat) : ∀ (roots : List Int) (number : Int),
    table.rootsFrom fuel roots number link =
      ((table.unfold fuel link).numbers number).map fun numbers => roots ++ numbers.map Prod.fst := by
  induction fuel, link using table.link_induction with
  | finished fuel =>
    intro roots number
    cases fuel <;> simp [rootsFrom, unfold, Chain.numbers, Except.map]
  | spent index => exact fun _ _ => rfl
  | missing fuel index missing =>
    intro roots number
    rw [unfold_of_missing missing, rootsFrom, missing]
    rfl
  | skipped fuel index node found placeholder ih =>
    intro roots number
    rw [unfold_of_placeholder found placeholder, rootsFrom, found, ← ih]
    exact if_pos placeholder
  | item fuel index node found occupied _ ih =>
    intro roots number
    rw [unfold_of_item found occupied, rootsFrom, found, Chain.numbers_item, map_map_outcome]
    simp only [occupied, Bool.false_eq_true, if_false, ih, List.append_assoc]
    rfl

theorem namesFrom_eq (name : String) (fuel : Nat) (link : Option Nat) : ∀ (number : Int) (collected : Collected String),
    table.namesFrom name fuel number collected link =
      ((table.unfold fuel link).numbers number).map fun numbers =>
        collected.addAll (numbers.map fun member => (Name.child name member.1, member.2)) := by
  induction fuel, link using table.link_induction with
  | finished fuel =>
    intro number collected
    cases fuel <;> rfl
  | spent index => exact fun _ _ => rfl
  | missing fuel index missing =>
    intro number collected
    rw [unfold_of_missing missing, namesFrom, missing]
    rfl
  | skipped fuel index node found placeholder ih =>
    intro number collected
    rw [unfold_of_placeholder found placeholder, namesFrom, found, ← ih]
    exact if_pos placeholder
  | item fuel index node found occupied _ ih =>
    intro number collected
    rw [unfold_of_item found occupied, namesFrom, found, Chain.numbers_item, map_map_outcome]
    simp only [occupied, Bool.false_eq_true, if_false, ih]
    rfl

theorem alternatives_eq (fuel : Nat) (name : String) (link : Option Nat) :
    table.alternatives fuel name link = (table.unfold fuel link).alternatives name := by
  rw [alternatives, namesFrom_eq, Chain.alternatives, map_map_outcome]
  congr 1
  funext numbers
  simp only [Function.comp_def, Collected.alternatives_addAll_new, splitAfter_map, List.map_map]

/-- The items are lowered as those of the chain, after what was lowered before. -/
theorem lowerFrom_eq [Limits] (transliterate : Transliterator) (fuel : Nat) (link : Option Nat) :
    ∀ (scope : String) (before : Lowered), table.lowerFrom transliterate fuel scope before link =
      ((table.unfold fuel link).lower transliterate scope before.nextNumber).map before.append := by
  induction fuel, link using table.link_induction with
  | finished fuel =>
    intro scope before
    cases fuel <;> simp [lowerFrom, unfold, Chain.lower, Except.map, Lowered.append]
  | spent index => exact fun _ _ => rfl
  | missing fuel index missing =>
    intro scope before
    rw [unfold_of_missing missing, lowerFrom, missing]
    rfl
  | skipped fuel index node found placeholder ih =>
    intro scope before
    rw [unfold_of_placeholder found placeholder, lowerFrom, found, ← ih]
    exact if_pos placeholder
  | item fuel index node found occupied inside ih =>
    intro scope before
    have nested : ∀ outcome : Except LoweringFault Lowered, outcome.map (Lowered.append ⟨[], [], 0⟩) = outcome := by
      rintro (_ | _) <;> rfl
    rw [unfold_of_item found occupied, lowerFrom, found, Chain.lower_item]
    simp only [occupied, Bool.false_eq_true, if_false, ih, inside, alternatives_eq, nested, map_bind_outcome]
    refine bind_congr fun name => bind_congr fun repeats => bind_congr fun content => ?_
    cases (table.unfold fuel node.next).lower transliterate scope (before.nextNumber + 1) with
    | error fault => rfl
    | ok rest => simp [Except.map, Lowered.append, Bind.bind, Except.bind, Pure.pure, Except.pure]

/-- A table is lowered as the sentence that it denotes. -/
theorem lower_eq_sentence [Limits] (transliterate : Transliterator) (number : Int) :
    table.lower transliterate number = table.chain.sentence transliterate number := by
  rw [lower, rootRules, rootsFrom_eq, Chain.sentence, chain]
  cases (table.unfold table.nodes.size table.first).numbers number with
  | error fault => rfl
  | ok numbers =>
    by_cases writable : (numbers.map Prod.fst).all isWritable = true
    · simp only [lowerFrom_eq, Except.map, List.nil_append, Bind.bind, Except.bind, if_pos writable]
      cases (table.unfold table.nodes.size table.first).lower transliterate Name.wordScope number <;> rfl
    · simp only [Except.map, List.nil_append, Bind.bind, Except.bind, if_neg writable]
      rfl

/-- A table is lowered in a scope as the chain that it denotes. -/
theorem lower_eq_chain [Limits] (transliterate : Transliterator) (number : Int) (scope : String) :
    table.lower transliterate number (some scope) = table.chain.lower transliterate scope number := by
  rw [lower, lowerFrom_eq, chain]
  cases (table.unfold table.nodes.size table.first).lower transliterate scope number <;> rfl

theorem alternativeForms_eq (fuel : Nat) (link : Option Nat) : ∀ collected : Collected Sexp,
    table.alternativeForms fuel collected link = (table.unfold fuel link).forms.map collected.addAll := by
  induction fuel, link using table.link_induction with
  | finished fuel =>
    intro collected
    cases fuel <;> rfl
  | spent index => exact fun _ => rfl
  | missing fuel index missing =>
    intro collected
    rw [unfold_of_missing missing, alternativeForms, missing]
    rfl
  | skipped fuel index node found placeholder ih =>
    intro collected
    rw [unfold_of_placeholder found placeholder, alternativeForms, found, ← ih]
    exact if_pos placeholder
  | item fuel index node found occupied inside ih =>
    intro collected
    rw [unfold_of_item found occupied, alternativeForms, found, Chain.forms_item]
    simp only [occupied, Bool.false_eq_true, if_false, ih, inside, map_map_outcome, Function.comp_def,
      Collected.alternatives_addAll_new]
    cases node.form ((table.unfold fuel node.child).forms.map splitAfter) with
    | error fault => rfl
    | ok item => cases (table.unfold fuel node.next).forms <;> rfl

theorem chainForms_eq (fuel : Nat) (link : Option Nat) : ∀ items : List Sexp,
    table.chainForms fuel items link = (table.unfold fuel link).forms.map fun forms => items ++ forms.map Prod.fst := by
  induction fuel, link using table.link_induction with
  | finished fuel =>
    intro items
    cases fuel <;> simp [chainForms, unfold, Chain.forms, Except.map]
  | spent index => exact fun _ => rfl
  | missing fuel index missing =>
    intro items
    rw [unfold_of_missing missing, chainForms, missing]
    rfl
  | skipped fuel index node found placeholder ih =>
    intro items
    rw [unfold_of_placeholder found placeholder, chainForms, found, ← ih]
    exact if_pos placeholder
  | item fuel index node found occupied _ ih =>
    intro items
    rw [unfold_of_item found occupied, chainForms, found, Chain.forms_item]
    simp only [occupied, Bool.false_eq_true, if_false, ih, alternativeForms_eq, map_map_outcome, Function.comp_def,
      Collected.alternatives_addAll_new]
    cases node.form ((table.unfold fuel node.child).forms.map splitAfter) with
    | error fault => rfl
    | ok item =>
      cases (table.unfold fuel node.next).forms with
      | error fault => rfl
      | ok rest => simp [Except.map, Bind.bind, Except.bind, Pure.pure, Except.pure]

/-- A table is dumped as the chain that it denotes. -/
theorem dump_eq_form : table.dump = table.chain.form.map Sexp.render := by
  rw [dump, chainForms_eq, Chain.form, chain, map_map_outcome, map_map_outcome]
  rfl

end NodeTable

end Utterance
