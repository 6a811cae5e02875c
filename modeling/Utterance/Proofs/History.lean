import Utterance.Proofs.Meaning
import Utterance.Proofs.Steps

/-!
# Histories of sessions

A history is a session together with what made it: the patterns that were added over its whole life, those of them
that were added since the last reset, and the symbols that were given values. An operation that fails leaves no
trace. `Sound` is what every operation keeps: each addition appended what its pattern is lowered to, the numbers of
the additions follow one another also over a reset, and the session consists of its preamble and what was added since
the last reset.
-/

namespace Utterance
set_option autoImplicit false

/-- A pattern that was added: the number of its first item, and what it appended to the session. -/
structure Addition where
  source : Pattern.Source
  number : Int
  grammar : Grammar
  vocabulary : Vocabulary

namespace Addition

/-- The addition of a pattern that turned a session into another. -/
def between (before : Session) (source : Pattern.Source) (after : Session) : Addition where
  source := source
  number := before.nextNumber
  grammar := after.grammar.drop before.grammar.length
  vocabulary := after.vocabulary.drop before.vocabulary.length

/-- The items of the pattern. -/
def chain [Limits] (addition : Addition) : Chain :=
  match Pattern.parse addition.source with
  | .ok table => table.chain
  | .error _ => .nil

/-- The identifiers of the items of the pattern. -/
def identifiers [Limits] (addition : Addition) : List Identifier :=
  addition.chain.sentenceIdentifiers addition.number

/-- The names that the addition introduced: those of its productions and of its sections. -/
def generated (addition : Addition) : List String :=
  addition.grammar.map Production.name ++ addition.vocabulary.map Section.name

/-- The number after that of the last item. -/
def nextNumber [Limits] (addition : Addition) : Int :=
  addition.number + addition.chain.count

/-- The addition appended what its pattern is lowered to. -/
def IsLowered [Limits] (transliterate : Transliterator) (addition : Addition) : Prop :=
  ∃ table, Pattern.parse addition.source = .ok table ∧ table.lower transliterate addition.number =
    .ok ⟨addition.grammar, addition.vocabulary, addition.nextNumber⟩

/-- What an addition looks like, in terms of the items of its pattern. -/
structure Shape [Limits] (transliterate : Transliterator) (addition : Addition) : Prop where
  known : addition.chain.IsKnown
  proper : addition.chain.IsProper
  nonempty : addition.chain.count ≠ 0
  grammar : addition.grammar = addition.chain.sentenceProductions addition.number
  vocabulary : addition.vocabulary = addition.chain.sections transliterate Name.wordScope addition.number

theorem chain_of_parse [Limits] {addition : Addition} {table : NodeTable}
    (accepted : Pattern.parse addition.source = .ok table) : addition.chain = table.chain := by
  rw [chain, accepted]

theorem IsLowered.shape [Limits] {transliterate : Transliterator} {addition : Addition}
    (lowered : addition.IsLowered transliterate) : addition.Shape transliterate := by
  obtain ⟨table, accepted, lowers⟩ := lowered
  obtain ⟨known, _, _, same⟩ := NodeTable.lower_eq_ok_iff.1 lowers
  obtain ⟨nonempty, proper⟩ := Pattern.isProper_of_parse accepted
  rw [← chain_of_parse accepted] at known same nonempty proper
  exact ⟨known, proper, nonempty, congrArg Lowered.grammar same, congrArg Lowered.vocabulary same⟩

end Addition

/-- A session and what made it. -/
structure History where
  session : Session := {}
  /-- all patterns that were ever added -/
  additions : List Addition := []
  /-- the patterns that were added since the last reset -/
  kept : List Addition := []
  /-- the names of all symbols that were ever given values -/
  symbols : List String := []

namespace History

/-- Notes an operation that led to a session. -/
def record (history : History) (after : Session) : Operation → History
  | .add source =>
    let addition := Addition.between history.session source after
    { history with
      session := after
      additions := history.additions ++ [addition]
      kept := history.kept ++ [addition] }
  | .addSymbol name _ => { history with session := after, symbols := history.symbols ++ name.text?.toList }
  | .reset => { history with session := after, kept := [] }

/-- Does an operation; one that fails changes nothing. -/
def step [Limits] (transliterate : Transliterator) (history : History) (operation : Operation) : History :=
  match history.session.perform transliterate operation with
  | .ok after => history.record after operation
  | .error _ => history

/-- The history of a new session to which the operations are done one after the other. -/
def run [Limits] (transliterate : Transliterator) (operations : List Operation) : History :=
  operations.foldl (step transliterate) {}

/-- The terminals of the session: every section of the vocabulary is one. -/
def terminals (history : History) : List String :=
  history.session.vocabulary.map Section.name

/-- The names of symbols that patterns refer to or that were given values. -/
def names [Limits] (history : History) : List String :=
  history.additions.flatMap (fun addition => addition.chain.symbols) ++ history.symbols

/-- What every operation keeps. -/
structure Sound [Limits] (transliterate : Transliterator) (history : History) : Prop where
  lowered : ∀ addition ∈ history.additions, addition.IsLowered transliterate
  apart : history.additions.Pairwise fun first second => first.nextNumber ≤ second.number
  below : ∀ addition ∈ history.additions, addition.nextNumber ≤ history.session.nextNumber
  kept : history.kept ⊆ history.additions
  grammar : history.session.grammar = preambleGrammar ++ history.kept.flatMap Addition.grammar
  fixed : Name.fixed ⊆ history.terminals
  terminals : ∀ name ∈ history.terminals, name ∈ Name.fixed ∨ name ∈ history.symbols ∨
    ∃ addition ∈ history.kept, name ∈ addition.vocabulary.map Section.name

end History

/-! ## Operations that succeed -/

namespace Session

variable {transliterate : Transliterator} {session after : Session}

/-- What adding a pattern does. -/
theorem between_of_add [Limits] {source : Pattern.Source} (added : session.add transliterate source = .ok after) :
    let addition := Addition.between session source after
    addition.IsLowered transliterate ∧ after.grammar = session.grammar ++ addition.grammar ∧
      after.vocabulary = session.vocabulary ++ addition.vocabulary ∧
      after.nextNumber = addition.nextNumber := by
  simp only [add_eq, bind_eq_ok_iff, parse, mapError_eq_ok_iff] at added
  obtain ⟨table, accepted, lowered, lowers, same⟩ := added
  cases same
  have grammar : (Addition.between session source (session.append lowered)).grammar = lowered.grammar := List.drop_left
  have vocabulary : (Addition.between session source (session.append lowered)).vocabulary = lowered.vocabulary :=
    List.drop_left
  have chain : (Addition.between session source (session.append lowered)).chain = table.chain :=
    Addition.chain_of_parse accepted
  have next : (Addition.between session source (session.append lowered)).nextNumber = lowered.nextNumber := by
    obtain ⟨_, _, _, rfl⟩ := NodeTable.lower_eq_ok_iff.1 lowers
    rw [Addition.nextNumber, chain]
    rfl
  refine ⟨⟨table, accepted, ?_⟩, ?_, ?_, ?_⟩
  · rw [grammar, vocabulary, next]
    exact lowers
  · rw [grammar]
    rfl
  · rw [vocabulary]
    rfl
  · rw [next]
    rfl

/-- What giving values to a symbol does. -/
theorem exists_section_of_addSymbol {name : Scalar} {values : SymbolValues}
    (added : session.addSymbol transliterate name values = .ok after) :
    ∃ block : Section, name.text? = some block.name ∧
      after = { session with vocabulary := session.vocabulary ++ [block] } := by
  simp only [addSymbol_eq, bind_eq_ok_iff] at added
  obtain ⟨block, made, same⟩ := added
  cases same
  refine ⟨block, ?_, rfl⟩
  unfold symbolSection at made
  split at made
  · split at made
    · simp only [bind_eq_ok_iff] at made
      obtain ⟨_, _, _, _, same⟩ := made
      cases same
      rfl
    · cases made
  · split at made <;> cases made

end Session

/-! ## What a run keeps -/

namespace History

variable {transliterate : Transliterator} {history : History} {after : Session}

theorem sound_new [Limits] : Sound transliterate {} where
  lowered := by simp
  apart := .nil
  below := by simp
  kept := List.Subset.refl _
  grammar := rfl
  fixed := List.Subset.refl _
  terminals := fun _ member => .inl member

theorem Sound.record_add [Limits] (sound : Sound transliterate history) {source : Pattern.Source}
    (added : history.session.add transliterate source = .ok after) :
    Sound transliterate (history.record after (.add source)) := by
  obtain ⟨lowered, grammar, vocabulary, next⟩ := Session.between_of_add added
  set addition := Addition.between history.session source after
  have terminals : (history.record after (.add source)).terminals =
      history.terminals ++ addition.vocabulary.map Section.name := by
    rw [History.terminals, record, vocabulary, List.map_append]
    rfl
  have longer : addition.number ≤ addition.nextNumber := by
    rw [Addition.nextNumber]
    omega
  constructor
  case lowered => exact List.forall_mem_append.2 ⟨sound.lowered, List.forall_mem_singleton.2 lowered⟩
  case apart =>
    refine List.pairwise_append.2 ⟨sound.apart, List.pairwise_singleton _ _, fun earlier member => ?_⟩
    exact List.forall_mem_singleton.2 (sound.below earlier member)
  case below =>
    refine List.forall_mem_append.2 ⟨fun earlier member => ?_, List.forall_mem_singleton.2 next.ge⟩
    have before := sound.below earlier member
    calc earlier.nextNumber ≤ addition.number := before
      _ ≤ addition.nextNumber := longer
      _ = after.nextNumber := next.symm
  case kept =>
    show history.kept ++ [addition] ⊆ history.additions ++ [addition]
    exact List.append_subset.2
      ⟨List.Subset.trans sound.kept (List.subset_append_left _ _), List.subset_append_right _ _⟩
  case grammar =>
    show after.grammar = preambleGrammar ++ (history.kept ++ [addition]).flatMap Addition.grammar
    rw [grammar, sound.grammar, List.flatMap_append, List.flatMap_singleton, List.append_assoc]
  case fixed =>
    rw [terminals]
    exact List.Subset.trans sound.fixed (List.subset_append_left _ _)
  case terminals =>
    intro name member
    rw [terminals, List.mem_append] at member
    obtain member | member := member
    · obtain fixed | given | ⟨earlier, found, headed⟩ := sound.terminals name member
      · exact .inl fixed
      · exact .inr (.inl given)
      · exact .inr (.inr ⟨earlier, List.mem_append_left _ found, headed⟩)
    · exact .inr (.inr ⟨addition, List.mem_append_right _ (List.mem_singleton_self _), member⟩)

theorem Sound.record_addSymbol [Limits] (sound : Sound transliterate history) {name : Scalar} {values : SymbolValues}
    (added : history.session.addSymbol transliterate name values = .ok after) :
    Sound transliterate (history.record after (.addSymbol name values)) := by
  obtain ⟨block, named, rfl⟩ := Session.exists_section_of_addSymbol added
  refine ⟨sound.lowered, sound.apart, sound.below, sound.kept, sound.grammar, ?_, ?_⟩
  · intro fixed listed
    exact List.mem_map.2 ((List.mem_map.1 (sound.fixed listed)).imp fun _ => .imp_left (List.mem_append_left _))
  · intro terminal member
    simp only [History.terminals, record, List.map_append, List.mem_append, List.map_cons, List.map_nil] at member ⊢
    obtain member | member := member
    · obtain fixed | given | kept := sound.terminals terminal member
      · exact .inl fixed
      · exact .inr (.inl (.inl given))
      · exact .inr (.inr kept)
    · exact .inr (.inl (.inr (by simpa [named] using member)))

theorem Sound.record_reset [Limits] (sound : Sound transliterate history) :
    Sound transliterate (history.record history.session.reset .reset) where
  lowered := sound.lowered
  apart := sound.apart
  below := sound.below
  kept := List.nil_subset _
  grammar := rfl
  fixed := List.Subset.refl _
  terminals := fun _ member => .inl member

theorem Sound.step [Limits] (sound : Sound transliterate history) (operation : Operation) :
    Sound transliterate (history.step transliterate operation) := by
  unfold History.step
  split
  case h_1 after performed =>
    cases operation with
    | add source => exact sound.record_add performed
    | addSymbol name values => exact sound.record_addSymbol performed
    | reset =>
      obtain rfl := Except.ok.inj performed
      exact sound.record_reset
  case h_2 => exact sound

/-- Every run of operations on a new session is sound. -/
theorem sound_run [Limits] (transliterate : Transliterator) (operations : List Operation) :
    Sound transliterate (run transliterate operations) := by
  have kept : ∀ history, Sound transliterate history →
      Sound transliterate (operations.foldl (History.step transliterate) history) := by
    induction operations with
    | nil => exact fun _ sound => sound
    | cons operation rest ih => exact fun history sound => ih _ (sound.step operation)
  exact kept _ sound_new

end History

/-! ## The identifiers of additions -/

namespace Addition

variable {transliterate : Transliterator} {addition : Addition}

/-- The productions of an addition are for the start and for its identifiers that head no section. -/
theorem Shape.name_iff [Limits] (shape : addition.Shape transliterate) {name : String} :
    name ∈ addition.grammar.map Production.name ↔ name = Name.start ∨
      ∃ identifier ∈ addition.identifiers, identifier.heads = false ∧ identifier.name = name := by
  rw [shape.grammar, List.mem_map]
  constructor
  · rintro ⟨production, member, rfl⟩
    exact Chain.exists_identifier_of_mem_sentenceProductions member
  · rintro (rfl | ⟨identifier, member, plain, rfl⟩)
    · exact ⟨_, Chain.mem_sentenceProductions.2 (.inl rfl), rfl⟩
    · exact Chain.exists_production_of_mem_sentenceIdentifiers shape.known shape.proper member plain

/-- The sections of an addition are headed by its identifiers that head one, in order. -/
theorem Shape.map_name_vocabulary [Limits] (shape : addition.Shape transliterate) :
    addition.vocabulary.map Section.name = (addition.identifiers.filter Identifier.heads).map Identifier.name := by
  rw [shape.vocabulary, Chain.map_name_sentenceSections, identifiers]

theorem Shape.exists_identifier_of_mem_vocabulary [Limits] (shape : addition.Shape transliterate) {name : String}
    (member : name ∈ addition.vocabulary.map Section.name) :
    ∃ identifier ∈ addition.identifiers, identifier.heads = true ∧ identifier.name = name := by
  rw [shape.map_name_vocabulary] at member
  obtain ⟨identifier, found, named⟩ := List.mem_map.1 member
  obtain ⟨inside, heads⟩ := List.mem_filter.1 found
  exact ⟨identifier, inside, heads, named⟩

/-- Additions whose numbers follow one another share no identifier. -/
theorem name_ne_of_nextNumber_le [Limits] {first second : Addition} (apart : first.nextNumber ≤ second.number)
    {one other : Identifier} (member : one ∈ first.identifiers) (found : other ∈ second.identifiers) :
    one.name ≠ other.name := by
  intro same
  have early := Chain.numbered_of_mem_sentenceIdentifiers member
  have late := Chain.numbered_of_mem_sentenceIdentifiers found
  rw [← same] at late
  obtain early | early := early <;> obtain late | late := late
  · exact early.not_numbered apart late
  · exact Name.not_covers_word_of_covers_root early.covers late.covers
  · exact Name.not_covers_word_of_covers_root late.covers early.covers
  · exact early.not_numbered apart late

end Addition

namespace History

variable {transliterate : Transliterator} {history : History}

theorem Sound.shape [Limits] (sound : Sound transliterate history) {addition : Addition}
    (listed : addition ∈ history.additions) :
    addition.Shape transliterate :=
  (sound.lowered addition listed).shape

/-- One name stands for one item of one addition, in one role. -/
theorem Sound.index_eq_of_name_eq [Limits] (sound : Sound transliterate history) {i j : Nat} {first second : Addition}
    (atFirst : history.additions[i]? = some first) (atSecond : history.additions[j]? = some second)
    {one other : Identifier} (member : one ∈ first.identifiers) (found : other ∈ second.identifiers)
    (same : one.name = other.name) : i = j ∧ one = other := by
  obtain ⟨small, rfl⟩ := List.getElem?_eq_some_iff.1 atFirst
  obtain ⟨smallToo, rfl⟩ := List.getElem?_eq_some_iff.1 atSecond
  have apart := List.pairwise_iff_getElem.1 sound.apart
  obtain less | rfl | more := Nat.lt_trichotomy i j
  · exact absurd same (Addition.name_ne_of_nextNumber_le (apart i j small smallToo less) member found)
  · exact ⟨rfl, List.inj_on_of_nodup_map Chain.nodup_sentenceIdentifiers member found same⟩
  · exact absurd same.symm (Addition.name_ne_of_nextNumber_le (apart j i smallToo small more) found member)

theorem Sound.eq_of_name_eq [Limits] (sound : Sound transliterate history) {first second : Addition}
    (listed : first ∈ history.additions) (listedToo : second ∈ history.additions)
    {one other : Identifier} (member : one ∈ first.identifiers) (found : other ∈ second.identifiers)
    (same : one.name = other.name) : first = second ∧ one = other := by
  obtain ⟨i, atFirst⟩ := List.mem_iff_getElem?.1 listed
  obtain ⟨j, atSecond⟩ := List.mem_iff_getElem?.1 listedToo
  obtain ⟨rfl, rfl⟩ := sound.index_eq_of_name_eq atFirst atSecond member found same
  exact ⟨Option.some.inj (atFirst.symm.trans atSecond), rfl⟩

end History

end Utterance
