import Utterance.Node.Dump
import Utterance.Proofs.Building
import Utterance.Proofs.Meaning
import Utterance.Proofs.Refusal

/-!
# What can go wrong with an accepted pattern

No text makes the builder fail. A table that was parsed has no placeholder and no empty group, it can be dumped, and
lowering it fails only for a literal that the transliterator refuses, for a number of times that no list has for its
length, or for a number that cannot be written (`parse_safe`).
-/

namespace Utterance
set_option autoImplicit false
open Pattern

/-- The node is a leaf with a text, or a group whose children are a chain that is not empty. -/
def NodeTable.IsFilled (table : NodeTable) (node : Node) : Prop :=
  (node.content ≠ "" ∧ node.child = none) ∨
    (node.content = "" ∧ ∃ first rest, node.child = some first ∧ table.siblings node.child = .ok (first :: rest))

/-- One of the numbers of times that a range stands for is beyond a limit. -/
def Repetition.Exceeds [Limits] (fault : CapacityFault) : Repetition → Prop
  | .range least most => ∃ count, least ≤ count ∧ count ≤ most ∧ count ≠ 0 ∧ repetitionFault? least count = some fault
  | _ => False

namespace Chain

/-- The numbers of all items, those in groups being counted from 0. -/
def itemNumbers : (number : Int) → Chain → List Int
  | _, .nil => []
  | _, .broken _ => []
  | number, .leaf _ _ _ next => number :: next.itemNumbers (number + 1)
  | number, .group inner _ _ next => number :: (inner.itemNumbers 0 ++ next.itemNumbers (number + 1))

/-- What keeps a chain from being lowered though everything in it has a meaning. -/
inductive Hinders [Limits] (transliterate : Transliterator) (number : Int) (chain : Chain) : LoweringFault → Prop where
  /-- the transliterator refuses a literal -/
  | literal {text : String} {fault : TransliterationFault} (listed : text ∈ chain.literals)
      (refused : transliterate text = .error fault) : Hinders transliterate number chain (.transliteration fault)
  /-- an item cannot be said that number of times -/
  | repetition {repetition : Repetition} {fault : CapacityFault} (listed : repetition ∈ chain.repetitions)
      (exceeds : repetition.Exceeds fault) : Hinders transliterate number chain (.capacity fault)
  /-- the number of an item cannot be written -/
  | number {item : Int} (listed : item ∈ chain.itemNumbers number) (unwritable : isWritable item = false) :
      Hinders transliterate number chain .oversizedNumber

end Chain

/-! ## Nodes -/

namespace Pattern

section Nodes

variable (source : Source)

/-- A leaf with a text, or a group. -/
def IsLeafOrGroup (node : Node) : Prop :=
  (node.content ≠ "" ∧ node.child = none) ∨ (node.content = "" ∧ node.child.isSome)

theorem isLeafOrGroup_atom {atom : WrittenAtom} (text : (atom.node source).content ≠ "") (repetition : Repetition)
    (parent : Option Nat) (closes : Bool) (next : Option Nat) :
    IsLeafOrGroup (placed (atom.node source) repetition parent closes next) := by
  refine .inl ⟨text, ?_⟩
  cases atom <;> rfl

mutual

theorem Item.isLeafOrGroup_nodes : (item : Item WrittenAtom Nat WrittenRepeat) → (index : Nat) →
    (parent : Option Nat) → (closes : Bool) → (next : Option Nat) →
    (∀ a ∈ item.atoms, (a.node source).content ≠ "") →
    ∀ node ∈ item.nodes source index parent closes next, IsLeafOrGroup node
  | .atom content repeated, index, parent, closes, next, texts => by
    rw [Item.nodes, List.forall_mem_singleton]
    exact isLeafOrGroup_atom source (texts content (by simp [Item.atoms])) ..
  | .group column inner repeated, index, parent, closes, next, texts => by
    rw [Item.nodes, List.forall_mem_cons]
    exact ⟨.inr ⟨rfl, rfl⟩, Choice.isLeafOrGroup_nodes inner (index + 1) (some index) texts⟩

theorem Phrase.isLeafOrGroup_nodes : (phrase : Phrase WrittenAtom Nat WrittenRepeat) → (index : Nat) →
    (parent : Option Nat) → (closes : Bool) → (next : Option Nat) →
    (∀ a ∈ phrase.atoms, (a.node source).content ≠ "") →
    ∀ node ∈ phrase.nodes source index parent closes next, IsLeafOrGroup node
  | .last item, index, parent, closes, next, texts => Item.isLeafOrGroup_nodes item index parent closes next texts
  | .cons item rest, index, parent, closes, next, texts => by
    rw [Phrase.atoms, List.forall_mem_append] at texts
    rw [Phrase.nodes, List.forall_mem_append]
    exact ⟨Item.isLeafOrGroup_nodes item _ _ _ _ texts.1, Phrase.isLeafOrGroup_nodes rest _ _ _ _ texts.2⟩

theorem Choice.isLeafOrGroup_nodes : (choice : Choice WrittenAtom Nat WrittenRepeat) → (index : Nat) →
    (parent : Option Nat) → (∀ a ∈ choice.atoms, (a.node source).content ≠ "") →
    ∀ node ∈ choice.nodes source index parent, IsLeafOrGroup node
  | .last phrase, index, parent, texts => Phrase.isLeafOrGroup_nodes phrase index parent false none texts
  | .cons phrase rest, index, parent, texts => by
    rw [Choice.atoms, List.forall_mem_append] at texts
    rw [Choice.nodes, List.forall_mem_append]
    exact ⟨Phrase.isLeafOrGroup_nodes phrase _ _ _ _ texts.1, Choice.isLeafOrGroup_nodes rest _ _ texts.2⟩

end

end Nodes

/-- A table that was parsed is that of a sound builder. -/
theorem exists_sound_of_parse [Limits] {source : Source} {table : NodeTable} (accepted : parse source = .ok table) :
    ∃ builder : Builder, builder.Sound ∧ table = builder.table := by
  obtain ⟨_, steps, _, _, built⟩ := parse_eq_ok_iff.1 accepted
  rw [build] at built
  split at built
  · rename_i finished
    obtain rfl := Except.ok.inj built
    obtain ⟨builder, ran, done⟩ := bind_eq_ok_iff.1 finished
    refine ⟨builder, Builder.sound_empty.run ran, ?_⟩
    unfold Builder.finish at done
    split at done
    · exact (Except.ok.inj done).symm
    · cases done
  · cases built

theorem isFilled_of_parse [Limits] {source : Source} {table : NodeTable} (accepted : parse source = .ok table) :
    ∀ node ∈ table.nodes, table.IsFilled node := by
  intro node member
  obtain ⟨written, proper, _, rfl⟩ := exists_written_of_parse accepted
  have texts := content_ne_empty_of_isProper proper source
  obtain leaf | ⟨empty, isGroup⟩ := Phrase.isLeafOrGroup_nodes source written 0 none false none texts node
    (by simpa [Written.table] using member)
  · exact .inl leaf
  · obtain ⟨first, child⟩ := Option.isSome_iff_exists.1 isGroup
    obtain ⟨builder, sound, same⟩ := exists_sound_of_parse accepted
    rw [same] at member ⊢
    obtain ⟨index, found⟩ := Array.mem_iff_getElem?.1 member
    obtain ⟨rest, chain⟩ := sound.exists_siblings (sound.links_lt (.child found child)).2
    exact .inr ⟨empty, first, rest, child, by rw [child, chain]⟩

theorem isKnown_of_parse [Limits] {source : Source} {table : NodeTable} (accepted : parse source = .ok table) :
    table.chain.IsKnown := by
  obtain ⟨expression, _, denotes⟩ := exists_spelledBy_of_parse accepted
  rw [denotes]
  exact Phrase.isKnown_chain expression trivial

end Pattern

/-! ## Dumping -/

theorem Repetition.exists_attach {repetition : Repetition} (known : repetition.IsKnown) (core : List Sexp) :
    ∃ item, repetition.attach core = .ok item := by
  cases repetition with
  | other kind least most => exact known.elim
  | _ => exact ⟨_, rfl⟩

theorem Leaf.exists_form {leaf : Leaf} (known : leaf.IsKnown) : ∃ form, leaf.form = .ok form := by
  cases leaf with
  | other kind => exact known.elim
  | _ => exact ⟨_, rfl⟩

theorem Chain.exists_forms {chain : Chain} (known : chain.IsKnown) : ∃ forms, chain.forms = .ok forms := by
  induction chain with
  | nil => exact ⟨[], rfl⟩
  | broken index => exact known.elim
  | leaf content repetition closes next ih =>
    obtain ⟨form, formed⟩ := Leaf.exists_form known.1
    obtain ⟨item, attached⟩ := Repetition.exists_attach known.2.1 form
    obtain ⟨rest, more⟩ := ih known.2.2
    refine ⟨(item, closes) :: rest, ?_⟩
    rw [Chain.forms, formed, more]
    simp only [bind_eq_ok_iff]
    exact ⟨form, rfl, item, attached, rest, rfl, rfl⟩
  | group inner repetition closes next ihInner ih =>
    obtain ⟨children, formed⟩ := ihInner known.1
    obtain ⟨item, attached⟩ := Repetition.exists_attach known.2.1
      (.symbol "group" :: (splitAfter children).map fun items => Sexp.cons (.symbol "alt") (.ofList items))
    obtain ⟨rest, more⟩ := ih known.2.2
    refine ⟨(item, closes) :: rest, ?_⟩
    rw [Chain.forms, formed, more]
    simp only [bind_eq_ok_iff]
    exact ⟨children, rfl, item, attached, rest, rfl, rfl⟩

/-! ## Lowering -/

theorem Repetition.exists_of_countedProductions [Limits] {name : String} {left : Nat} {least count : Int}
    {fault : LoweringFault} (failed : countedProductions name least left count = .error fault) :
    ∃ times capacity, count ≤ times ∧ times < count + left ∧ times ≠ 0 ∧ repetitionFault? least times = some capacity ∧
      fault = .capacity capacity := by
  induction left generalizing count with
  | zero => cases failed
  | succ left ih =>
    simp only [countedProductions, bind_eq_error_iff] at failed
    obtain first | ⟨symbols, _, later | ⟨rest, _, impossible⟩⟩ := failed
    · unfold repeatedSymbols at first
      split at first
      · cases first
      · rename_i counted
        split at first
        · rename_i capacity excessive
          cases first
          exact ⟨count, capacity, by omega, by omega, counted, excessive, rfl⟩
        · cases first
    · obtain ⟨times, capacity, low, high, excessive⟩ := ih later
      exact ⟨times, capacity, by omega, by omega, excessive⟩
    · cases impossible

theorem Repetition.exists_of_productions [Limits] {name : String} {repetition : Repetition} {fault : LoweringFault}
    (known : repetition.IsKnown) (failed : repetition.productions name = .error fault) :
    ∃ capacity, repetition.Exceeds capacity ∧ fault = .capacity capacity := by
  cases repetition with
  | range least most =>
    obtain ⟨times, capacity, low, high, counted, excessive, same⟩ := exists_of_countedProductions failed
    exact ⟨capacity, ⟨times, low, by omega, counted, excessive⟩, same⟩
  | other kind least most => exact known.elim
  | _ => cases failed

theorem itemName_eq_error_iff {scope : String} {number : Int} {fault : LoweringFault} :
    itemName scope number = .error fault ↔ isWritable number = false ∧ fault = .oversizedNumber := by
  unfold itemName
  cases isWritable number <;> simp [eq_comm]

theorem Leaf.exists_of_lower {transliterate : Transliterator} {name : String} {leaf : Leaf} {fault : LoweringFault}
    (known : leaf.IsKnown) (failed : leaf.lower transliterate name = .error fault) :
    ∃ text ∈ leaf.literal?, ∃ refusal, transliterate text = .error refusal ∧ fault = .transliteration refusal := by
  cases leaf with
  | literal text =>
    simp only [Leaf.lower] at failed
    split at failed
    · cases failed
    · rename_i error refused
      exact ⟨text, rfl, error, refused, (Except.error.inj failed).symm⟩
  | symbol reference => cases failed
  | other kind => exact known.elim

namespace Chain

variable {transliterate : Transliterator} {number : Int} {fault : LoweringFault}

/-- What hinders a part hinders the whole. -/
theorem Hinders.of_part [Limits] {part whole : Chain} {first : Int} (hinders : part.Hinders transliterate first fault)
    (literals : part.literals ⊆ whole.literals) (repetitions : part.repetitions ⊆ whole.repetitions)
    (numbers : part.itemNumbers first ⊆ whole.itemNumbers number) : whole.Hinders transliterate number fault := by
  cases hinders with
  | literal listed refused => exact .literal (literals listed) refused
  | repetition listed exceeds => exact .repetition (repetitions listed) exceeds
  | number listed unwritable => exact .number (numbers listed) unwritable

theorem literals_subset_leaf (content : Leaf) (repetition : Repetition) (closes : Bool) (next : Chain) :
    next.literals ⊆ (leaf content repetition closes next).literals := by
  intro text member
  cases said : content.literal? <;> simp_all [literals, leaves]

theorem literals_group (inner : Chain) (repetition : Repetition) (closes : Bool) (next : Chain) :
    (group inner repetition closes next).literals = inner.literals ++ next.literals := by
  simp only [literals, leaves, List.filterMap_append]

/-- Lowering a chain without anything unknown fails only for what hinders it. -/
theorem hinders_of_lower [Limits] {chain : Chain} {scope : String} (known : chain.IsKnown)
    (failed : chain.lower transliterate scope number = .error fault) : chain.Hinders transliterate number fault := by
  induction chain generalizing scope number with
  | nil => cases failed
  | broken index => exact known.elim
  | leaf content repetition closes next ih =>
    simp only [Chain.lower, bind_eq_error_iff] at failed
    obtain failed | ⟨name, _, failed | ⟨repeats, _, failed | ⟨lowered, _, failed | ⟨rest, _, impossible⟩⟩⟩⟩ := failed
    · obtain ⟨unwritable, rfl⟩ := itemName_eq_error_iff.1 failed
      exact .number List.mem_cons_self unwritable
    · obtain ⟨capacity, exceeds, rfl⟩ := Repetition.exists_of_productions known.2.1 failed
      exact .repetition List.mem_cons_self exceeds
    · obtain ⟨text, said, error, refused, rfl⟩ := Leaf.exists_of_lower known.1 failed
      refine .literal ?_ refused
      exact List.mem_filterMap.2 ⟨content, List.mem_cons_self, said⟩
    · exact (ih known.2.2 failed).of_part (literals_subset_leaf ..) (List.subset_cons_self ..) (List.subset_cons_self ..)
    · cases impossible
  | group inner repetition closes next ihInner ih =>
    simp only [Chain.lower, bind_eq_error_iff, alternatives_eq_ok known.1] at failed
    obtain failed | ⟨name, _, failed | ⟨repeats, _, failed | ⟨alternatives, _, failed | ⟨children, _, failed |
      ⟨rest, _, impossible⟩⟩⟩⟩⟩ := failed
    · obtain ⟨unwritable, rfl⟩ := itemName_eq_error_iff.1 failed
      exact .number List.mem_cons_self unwritable
    · obtain ⟨capacity, exceeds, rfl⟩ := Repetition.exists_of_productions known.2.1 failed
      exact .repetition List.mem_cons_self exceeds
    · cases failed
    · refine (ihInner known.1 failed).of_part ?_ ?_ ?_
      · exact literals_group inner repetition closes next ▸ List.subset_append_left ..
      · exact List.subset_cons_of_subset _ (List.subset_append_left ..)
      · exact List.subset_cons_of_subset _ (List.subset_append_left ..)
    · refine (ih known.2.2 failed).of_part ?_ ?_ ?_
      · exact literals_group inner repetition closes next ▸ List.subset_append_right ..
      · exact List.subset_cons_of_subset _ (List.subset_append_right ..)
      · exact List.subset_cons_of_subset _ (List.subset_append_right ..)
    · cases impossible

theorem map_numbering_subset_itemNumbers (chain : Chain) (number : Int) :
    (chain.numbering number).map Prod.fst ⊆ chain.itemNumbers number := by
  induction chain generalizing number with
  | nil => exact List.Subset.refl _
  | broken index => exact List.Subset.refl _
  | leaf content repetition closes next ih => exact List.cons_subset_cons _ (ih (number + 1))
  | group inner repetition closes next _ ih =>
    exact List.cons_subset_cons _ (List.subset_append_of_subset_right _ (ih (number + 1)))

theorem hinders_of_sentence [Limits] {chain : Chain} (known : chain.IsKnown)
    (failed : chain.sentence transliterate number = .error fault) : chain.Hinders transliterate number fault := by
  simp only [Chain.sentence, numbers_eq_ok known, bind_eq_error_iff] at failed
  obtain impossible | ⟨numbers, same, failed⟩ := failed
  · cases impossible
  · obtain rfl := Except.ok.inj same
    split at failed
    · obtain failed | ⟨words, _, impossible⟩ := bind_eq_error_iff.1 failed
      · exact hinders_of_lower known failed
      · cases impossible
    · rename_i unwritable
      obtain rfl : LoweringFault.oversizedNumber = fault := Except.error.inj failed
      rw [Bool.not_eq_true, List.all_eq_false] at unwritable
      obtain ⟨item, listed, tooLong⟩ := unwritable
      exact .number (map_numbering_subset_itemNumbers chain number listed) (by simpa using tooLong)

end Chain

namespace Pattern

/-- No text makes the builder fail. The nodes of an accepted pattern are leaves with a text and groups that are not
empty, it can be dumped, and lowering it fails only for a literal that is refused, a number of times that no list has
for its length, or a number that cannot be written. -/
theorem parse_safe [Limits] (source : Source) :
    (∀ fault, parse source ≠ .error (.build fault)) ∧ ∀ table, parse source = .ok table →
      (∀ node ∈ table.nodes, table.IsFilled node) ∧ (∃ text, table.dump = .ok text) ∧
      ∀ (transliterate : Transliterator) (number : Int) (scope : Option String) (fault : LoweringFault),
        table.lower transliterate number scope = .error fault → table.chain.Hinders transliterate number fault := by
  refine ⟨parse_ne_build source, fun table accepted => ⟨isFilled_of_parse accepted, ?_, ?_⟩⟩
  · obtain ⟨forms, formed⟩ := Chain.exists_forms (isKnown_of_parse accepted)
    rw [NodeTable.dump_eq_form, Chain.form, formed]
    exact ⟨_, rfl⟩
  · intro transliterate number scope fault failed
    have known := isKnown_of_parse accepted
    cases scope with
    | none => exact Chain.hinders_of_sentence known (table.lower_eq_sentence .. ▸ failed)
    | some scope => exact Chain.hinders_of_lower known (table.lower_eq_chain .. ▸ failed)

/-- Alternatives in a group in a group, and a literal that is spelled but not pronounced. -/
def nestedSource : Source := ⟨"(('a' | <b>)* 'bad')? 'c'\x7b2,3\x7d", "example", 1⟩

section
open scoped Workstation

/-- The transliterator fails at the second literal, which is then why there is no grammar. -/
theorem parse_safe_nested : ∃ table, parse nestedSource = .ok table ∧
    (∀ node ∈ table.nodes, table.IsFilled node) ∧ (∃ text, table.dump = .ok text) ∧
    ∃ fault, table.lower (Transliterator.avoiding "bad") 0 = .error fault ∧
      table.chain.Hinders (Transliterator.avoiding "bad") 0 fault := by
  obtain ⟨table, accepted, failed⟩ : ∃ table, parse nestedSource = .ok table ∧
      table.lower (Transliterator.avoiding "bad") 0 = .error (.transliteration (.unpronounceable ⟨"bad", 0, 'b'⟩)) :=
    ⟨_, rfl, by decide +kernel⟩
  obtain ⟨filled, dumped, lowering⟩ := (parse_safe nestedSource).2 table accepted
  exact ⟨table, accepted, filled, dumped, _, failed, lowering _ _ _ _ failed⟩

end

/-- A literal said a number of times, before one that some transliterators refuse. -/
def timesSource (times : String) : Source := ⟨"'a'" ++ times ++ " 'bad'", "example", 1⟩

/-- What is said too often fails before any literal is looked at. -/
theorem lower_eq_capacity [Limits] {table : NodeTable} {count : Int} {fault : CapacityFault}
    (chain : table.chain = .leaf (.literal "a") (.range count count) false (.leaf (.literal "bad") .once false .nil))
    (excessive : (Repetition.range count count).productions (Name.child Name.wordScope 0) = .error (.capacity fault))
    (transliterate : Transliterator) : table.lower transliterate 0 = .error (.capacity fault) := by
  have writable : isWritable 0 = true ∧ isWritable 1 = true := by decide +kernel
  rw [NodeTable.lower_eq_sentence, chain]
  simp [Chain.sentence, Chain.numbers, Chain.lower, itemName, Except.map, Bind.bind, Except.bind, writable, excessive]

section
open scoped Workstation

/-- Lowering an accepted pattern may fail whatever the transliterator does: because of a number of times that is no
machine word, one that memory is too small for, and a number of an item with too many digits. -/
theorem lower_limits :
    (∃ table, parse (timesSource "\x7b99999999999999999999\x7d") = .ok table ∧
      ∀ transliterate : Transliterator, table.lower transliterate 0 = .error (.capacity .notIndexSized)) ∧
    (∃ table, parse (timesSource "\x7b5000000000000000000\x7d") = .ok table ∧
      ∀ transliterate : Transliterator, table.lower transliterate 0 = .error (.capacity .outOfMemory)) ∧
    ∃ table, parse (timesSource "") = .ok table ∧ ∀ transliterate : Transliterator,
      table.lower transliterate (Nat.pow 10 digitLimit - 1 : Nat) = .error .oversizedNumber := by
  refine ⟨⟨_, rfl, @lower_eq_capacity _ _ 99999999999999999999 _ (by decide +kernel) (by decide +kernel)⟩,
    ⟨_, rfl, @lower_eq_capacity _ _ 5000000000000000000 _ (by decide +kernel) (by decide +kernel)⟩, ?_⟩
  obtain ⟨table, accepted, chain⟩ : ∃ table, parse (timesSource "") = .ok table ∧
      table.chain = .leaf (.literal "a") .once false (.leaf (.literal "bad") .once false .nil) :=
    ⟨_, rfl, by decide +kernel⟩
  refine ⟨table, accepted, fun transliterate => ?_⟩
  have unwritable : isWritable (((Nat.pow 10 digitLimit - 1 : Nat) : Int) + 1) = false := by decide +kernel
  rw [NodeTable.lower_eq_sentence, chain]
  simp only [Chain.sentence, Chain.numbers, Except.map, Bind.bind, Except.bind, List.map_cons, List.map_nil,
    List.all_cons, unwritable, Bool.false_and, Bool.and_false]
  rfl

end

end Pattern

end Utterance
