import Utterance.Proofs.Accepted

/-!
# Other words for the same pattern

The texts of the literals of a pattern have no influence on its grammar, and neither have their phones. The outline of a
table is what is left without these texts and without places. Patterns whose tables have the same outline are lowered to
the same grammar and to sections with the same headings, or fail for the same reason (`lower_reworded`).
-/

namespace Utterance
set_option autoImplicit false

/-- The node without its place and, if it is a literal, without its text. -/
def Node.outline (node : Node) : Node :=
  { node with content := if node.kind = .literal then "" else node.content, location := none }

/-- The table without places and without the texts of literals. -/
def NodeTable.outline (table : NodeTable) : NodeTable :=
  { table with nodes := table.nodes.map Node.outline }

/-- The leaf without the text of a literal. -/
def Leaf.outline : Leaf → Leaf
  | .literal _ => .literal ""
  | leaf => leaf

/-- The chain without the texts of literals. -/
def Chain.outline : Chain → Chain
  | .nil => .nil
  | .broken index => .broken index
  | .leaf content repetition closes next => .leaf content.outline repetition closes next.outline
  | .group inner repetition closes next => .group inner.outline repetition closes next.outline

/-- The section with its entries left blank. -/
def Section.blank (block : Section) : Section :=
  { block with entries := block.entries.map fun _ => ⟨"", ""⟩ }

/-- What a chain was lowered to, with the entries left blank. -/
def Lowered.blank (lowered : Lowered) : Lowered :=
  { lowered with vocabulary := lowered.vocabulary.map Section.blank }

/-! ## Tables -/

/-- What nodes with the same outline have in common. -/
structure Node.Alike (one other : Node) : Prop where
  repetition : one.repetition = other.repetition
  child : one.child = other.child
  next : one.next = other.next
  closes : one.closesAlternative = other.closesAlternative
  leaf : one.leaf.outline = other.leaf.outline

theorem Node.alike_of_outline_eq {one other : Node} (same : one.outline = other.outline) : one.Alike other := by
  simp only [outline, Node.mk.injEq] at same
  obtain ⟨content, kind, repetition, child, next, _, closes, _⟩ := same
  refine ⟨repetition, child, next, closes, ?_⟩
  rw [Node.leaf, Node.leaf, kind]
  rw [kind] at content
  cases isKind : other.kind with
  | literal => rfl
  | symbol =>
    simp only [isKind, reduceCtorEq, if_false] at content
    rw [content]
  | other name => rfl

namespace NodeTable

variable {one other : NodeTable}

/-- Where nothing is a placeholder, tables with the same outline denote chains with the same outline. -/
theorem outline_unfold (same : one.outline = other.outline) (filled : ∀ node ∈ one.nodes, node.isPlaceholder = false)
    (filledToo : ∀ node ∈ other.nodes, node.isPlaceholder = false) (fuel : Nat) (link : Option Nat) :
    (one.unfold fuel link).outline = (other.unfold fuel link).outline := by
  induction fuel generalizing link with
  | zero => cases link <;> rfl
  | succ fuel ih =>
    cases link with
    | none => rfl
    | some index =>
      have nodes : one.nodes[index]?.map Node.outline = other.nodes[index]?.map Node.outline := by
        rw [← Array.getElem?_map, ← Array.getElem?_map]
        exact congrArg (fun table : NodeTable => table.nodes[index]?) same
      rw [NodeTable.unfold, NodeTable.unfold]
      cases found : one.nodes[index]? with
      | none =>
        rw [found, Option.map_none, eq_comm, Option.map_eq_none_iff] at nodes
        rw [nodes]
      | some node =>
        rw [found, Option.map_some, eq_comm, Option.map_eq_some_iff] at nodes
        obtain ⟨second, foundToo, outlines⟩ := nodes
        have alike := Node.alike_of_outline_eq outlines
        simp only [foundToo, filled node (Array.mem_of_getElem? found),
          filledToo second (Array.mem_of_getElem? foundToo), Node.isGroup, alike.child, alike.next, alike.repetition,
          alike.closes, Bool.false_eq_true, if_false]
        by_cases isGroup : node.child.isSome = true
        · simp only [isGroup, if_true, Chain.outline, ih]
        · simp only [isGroup, Bool.false_eq_true, if_false, Chain.outline, ih, alike.leaf]

theorem outline_chain (same : one.outline = other.outline) (filled : ∀ node ∈ one.nodes, node.isPlaceholder = false)
    (filledToo : ∀ node ∈ other.nodes, node.isPlaceholder = false) : one.chain.outline = other.chain.outline := by
  simp only [outline, NodeTable.mk.injEq] at same
  have sizes : one.nodes.size = other.nodes.size := by simpa using congrArg Array.size same.1
  rw [chain, chain, sizes, same.2]
  exact outline_unfold (by simp only [outline, same]) filled filledToo _ _

end NodeTable

/-! ## Chains -/

/-- Two computations that agree up to a projection agree after steps that do. -/
theorem map_bind_congr {ε α β γ δ : Type} {first second : Except ε α} {project : α → γ} {more moreToo : α → Except ε β}
    {view : β → δ} (agree : first.map project = second.map project)
    (steps : ∀ a b, project a = project b → (more a).map view = (moreToo b).map view) :
    (first >>= more).map view = (second >>= moreToo).map view := by
  cases first with
  | error fault =>
    cases second with
    | error other => exact congrArg Except.error (Except.error.inj agree)
    | ok b => cases agree
  | ok a =>
    cases second with
    | error other => cases agree
    | ok b => exact steps a b (Except.ok.inj agree)

/-- Steps after one and the same computation. -/
theorem map_bind_congr_right {ε α β δ : Type} {first : Except ε α} {more moreToo : α → Except ε β} {view : β → δ}
    (steps : ∀ a, (more a).map view = (moreToo a).map view) :
    (first >>= more).map view = (first >>= moreToo).map view :=
  map_bind_congr (Eq.refl (first.map fun a => a)) fun a _ same => same ▸ steps a

/-- What a leaf was lowered to, with the entries left blank. -/
def Leaf.blank (lowered : Grammar × Vocabulary) : Grammar × Vocabulary :=
  (lowered.1, lowered.2.map Section.blank)

theorem Leaf.blank_lower {leaf : Leaf} {transliterate : Transliterator}
    (said : ∀ text ∈ leaf.literal?, ∃ phones, transliterate text = .ok phones) (name : String) :
    (leaf.lower transliterate name).map blank = (leaf.outline.lower Transliterator.verbatim name).map blank := by
  cases leaf with
  | literal text =>
    obtain ⟨phones, done⟩ := said text rfl
    simp only [Leaf.lower, outline, done]
    rfl
  | symbol reference => rfl
  | other kind => rfl

namespace Chain

theorem numbers_outline (chain : Chain) (number : Int) : chain.outline.numbers number = chain.numbers number := by
  induction chain generalizing number with
  | nil => rfl
  | broken index => rfl
  | leaf content repetition closes next ih => rw [outline, Chain.numbers, Chain.numbers, ih]
  | group inner repetition closes next _ ih => rw [outline, Chain.numbers, Chain.numbers, ih]

theorem alternatives_outline (name : String) (inner : Chain) :
    inner.outline.alternatives name = inner.alternatives name := by
  rw [Chain.alternatives, numbers_outline]
  rfl

variable {chain : Chain} {transliterate : Transliterator}

/-- A chain whose literals have phones is lowered like its outline, up to the entries. -/
theorem blank_lower [Limits] (said : chain.Pronounceable transliterate) (scope : String) (number : Int) :
    (chain.lower transliterate scope number).map Lowered.blank =
      (chain.outline.lower Transliterator.verbatim scope number).map Lowered.blank := by
  -- Both runs take the same steps: where one fails so does the other, and what they go on with differs in entries only.
  induction chain generalizing scope number with
  | nil => rfl
  | broken index => rfl
  | leaf content repetition closes next ih =>
    obtain ⟨sayable, others⟩ := pronounceable_leaf.1 said
    rw [outline, Chain.lower, Chain.lower]
    refine map_bind_congr_right fun name => map_bind_congr_right fun repeats => ?_
    refine map_bind_congr (Leaf.blank_lower sayable _) fun one two leaves => ?_
    refine map_bind_congr (ih others scope (number + 1)) fun rest restToo tails => ?_
    simp only [Leaf.blank, Prod.mk.injEq] at leaves
    simp only [Lowered.blank, Lowered.mk.injEq] at tails
    simp only [pure, Except.pure, Except.map, Lowered.blank, List.map_append, leaves, tails]
  | group inner repetition closes next ihInner ih =>
    obtain ⟨within, others⟩ := pronounceable_group.1 said
    simp only [outline, Chain.lower, alternatives_outline]
    refine map_bind_congr_right fun name => map_bind_congr_right fun repeats => ?_
    refine map_bind_congr_right fun alternatives => ?_
    refine map_bind_congr (ihInner within _ 0) fun children childrenToo inside => ?_
    refine map_bind_congr (ih others scope (number + 1)) fun rest restToo tails => ?_
    simp only [Lowered.blank, Lowered.mk.injEq] at inside tails
    simp only [pure, Except.pure, Except.map, Lowered.blank, List.map_append, inside, tails]

theorem blank_sentence [Limits] (said : chain.Pronounceable transliterate) (number : Int) :
    (chain.sentence transliterate number).map Lowered.blank =
      (chain.outline.sentence Transliterator.verbatim number).map Lowered.blank := by
  rw [Chain.sentence, Chain.sentence, numbers_outline]
  refine map_bind_congr_right fun numbers => ?_
  by_cases writable : (numbers.map Prod.fst).all isWritable = true
  · simp only [writable, if_true]
    refine map_bind_congr (blank_lower said _ number) fun words wordsToo same => ?_
    simp only [Lowered.blank, Lowered.mk.injEq] at same
    simp only [pure, Except.pure, Except.map, Lowered.blank, same]
  · simp only [writable, Bool.false_eq_true, if_false]

end Chain

/-- Tables of the same outline are lowered to the same, up to the entries. -/
theorem NodeTable.blank_lower [Limits] {table reworded : NodeTable} {transliterate pronounce : Transliterator}
    (alike : table.chain.outline = reworded.chain.outline) (said : table.chain.Pronounceable transliterate)
    (saidToo : reworded.chain.Pronounceable pronounce) (number : Int) (scope : Option String) :
    (table.lower transliterate number scope).map Lowered.blank =
      (reworded.lower pronounce number scope).map Lowered.blank := by
  cases scope with
  | none =>
    rw [NodeTable.lower_eq_sentence, NodeTable.lower_eq_sentence, Chain.blank_sentence said, Chain.blank_sentence saidToo,
      alike]
  | some scope =>
    rw [NodeTable.lower_eq_chain, NodeTable.lower_eq_chain, Chain.blank_lower said, Chain.blank_lower saidToo, alike]

theorem NodeTable.exists_lower [Limits] {table : NodeTable} {transliterate : Transliterator} (known : table.chain.IsKnown)
    (said : table.chain.Pronounceable transliterate) {number : Int} (scope : Option String) :
    (∃ lowered, table.lower transliterate number scope = .ok lowered) ↔ table.chain.Fits number := by
  cases scope with
  | none =>
    simp only [NodeTable.lower_eq_ok_iff, known, said, true_and, exists_and_left, exists_eq, and_true]
  | some scope =>
    simp only [NodeTable.lower_eq_chain, Chain.lower_eq_ok_iff, known, said, true_and, exists_and_left, exists_eq, and_true]

/-- Where two results agree up to the entries, both are faults and the same, or none is. -/
theorem Lowered.eq_error_or_eq_ok {first second : Except LoweringFault Lowered}
    (agree : first.map blank = second.map blank) :
    (∃ fault, first = .error fault ∧ second = .error fault) ∨
      ∃ one two, first = .ok one ∧ second = .ok two ∧ one.blank = two.blank := by
  cases first with
  | error fault =>
    cases second with
    | error other => exact .inl ⟨fault, rfl, congrArg Except.error (Except.error.inj agree).symm⟩
    | ok two => cases agree
  | ok one =>
    cases second with
    | error other => cases agree
    | ok two => exact .inr ⟨one, two, rfl, rfl, Except.ok.inj agree⟩

namespace Pattern

theorem isPlaceholder_of_parse [Limits] {source : Source} {table : NodeTable} (accepted : parse source = .ok table) :
    ∀ node ∈ table.nodes, node.isPlaceholder = false := by
  intro node member
  obtain ⟨text, _⟩ | ⟨_, first, _, child, _⟩ := isFilled_of_parse accepted node member
  · simp [Node.isPlaceholder, text]
  · simp [Node.isPlaceholder, child]

/-- Two accepted patterns whose tables differ only in the texts of literals and in places, each with a transliterator
that has phones for its literals, get the same grammar, the same next number and sections with the same headings and as
many entries, if the numbers and the repetitions fit; if they do not, both fail for the same reason. -/
theorem lower_reworded [Limits] {source other : Source} {table reworded : NodeTable}
    {transliterate pronounce : Transliterator} (accepted : parse source = .ok table) (acceptedToo : parse other = .ok reworded)
    (alike : table.outline = reworded.outline) (said : table.chain.Pronounceable transliterate)
    (saidToo : reworded.chain.Pronounceable pronounce) (number : Int) (scope : Option String) :
    (table.chain.Fits number → ∃ lowered loweredToo, table.lower transliterate number scope = .ok lowered ∧
      reworded.lower pronounce number scope = .ok loweredToo ∧ lowered.grammar.text = loweredToo.grammar.text ∧
      lowered.nextNumber = loweredToo.nextNumber ∧
      lowered.vocabulary.map Section.blank = loweredToo.vocabulary.map Section.blank) ∧
    (¬table.chain.Fits number → ∃ fault, table.lower transliterate number scope = .error fault ∧
      reworded.lower pronounce number scope = .error fault) := by
  have chains := NodeTable.outline_chain alike (isPlaceholder_of_parse accepted) (isPlaceholder_of_parse acceptedToo)
  have agree := NodeTable.blank_lower chains said saidToo number scope
  rw [← NodeTable.exists_lower (isKnown_of_parse accepted) said scope]
  obtain ⟨fault, failed, failedToo⟩ | ⟨lowered, loweredToo, done, doneToo, same⟩ := Lowered.eq_error_or_eq_ok agree
  · refine ⟨fun ⟨lowered, done⟩ => ?_, fun _ => ⟨fault, failed, failedToo⟩⟩
    rw [failed] at done
    cases done
  · refine ⟨fun _ => ⟨lowered, loweredToo, done, doneToo, ?_⟩, fun fails => absurd ⟨lowered, done⟩ fails⟩
    simp only [Lowered.blank, Lowered.mk.injEq] at same
    obtain ⟨grammar, vocabulary, nextNumber⟩ := same
    exact ⟨congrArg Grammar.text grammar, nextNumber, vocabulary⟩

/-- A group that is repeated, and a literal said twice. -/
def plainSource : Source := ⟨"('a' | <b>)+ 'c'{2}", "example", 1⟩

/-- The same with other literals: one like a heading, and one with an escaped quote. -/
def quotedSource : Source := ⟨" ( \"% WORD_7\" |<b> )+'it\\'s'{2,2}", "other", 3⟩

section
open scoped Workstation

/-- Said as they are written in one pattern and spelled in the other, the literals leave the grammar as it is. -/
theorem lower_reworded_quoted : ∃ table reworded lowered loweredToo, parse plainSource = .ok table ∧
    parse quotedSource = .ok reworded ∧ table.lower Transliterator.verbatim 5 = .ok lowered ∧
    reworded.lower Transliterator.spelled 5 = .ok loweredToo ∧ lowered.grammar.text = loweredToo.grammar.text ∧
    lowered.nextNumber = loweredToo.nextNumber ∧
    lowered.vocabulary.map Section.blank = loweredToo.vocabulary.map Section.blank := by
  obtain ⟨table, accepted, lowers⟩ : ∃ table, parse plainSource = .ok table ∧
      (table.lower Transliterator.verbatim 5).toOption.isSome = true := ⟨_, rfl, by decide +kernel⟩
  obtain ⟨reworded, acceptedToo, alike⟩ : ∃ reworded, parse quotedSource = .ok reworded ∧
      (parse plainSource).map NodeTable.outline = .ok reworded.outline := ⟨_, rfl, by decide +kernel⟩
  have said : table.chain.Pronounceable Transliterator.verbatim := fun text _ => ⟨text, rfl⟩
  have fits : table.chain.Fits 5 := by
    refine (NodeTable.exists_lower (isKnown_of_parse accepted) said none).1 ?_
    cases done : table.lower Transliterator.verbatim 5 with
    | error fault => simp [done, Except.toOption] at lowers
    | ok lowered => exact ⟨lowered, rfl⟩
  have saidToo : reworded.chain.Pronounceable Transliterator.spelled := fun _ _ => ⟨_, rfl⟩
  rw [accepted] at alike
  have reword := lower_reworded accepted acceptedToo (Except.ok.inj alike) said
    saidToo 5 none
  obtain ⟨lowered, loweredToo, done, doneToo, same⟩ := reword.1 fits
  exact ⟨table, reworded, lowered, loweredToo, accepted, acceptedToo, done, doneToo, same⟩

end

end Pattern

end Utterance
