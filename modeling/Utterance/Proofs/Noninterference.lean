import Utterance.Proofs.History

/-!
# Additions do not interfere

The sentences of a session are that of the preamble and, for each pattern that was added since the last reset, those of
what this pattern appended (`language_run_eq_add_sum`). No production of one addition can replace a name that stands in
another one: generated names are never given twice, and symbols are no generated names.
-/

namespace Utterance
set_option autoImplicit false

namespace History

variable {transliterate : Transliterator} {history : History}

/-- No symbol has a name that is given by hand or that an addition introduced. -/
def SymbolsAvoid [Limits] (history : History) : Prop :=
  ∀ name ∈ history.names, name ∉ Name.reserved ∧ ∀ addition ∈ history.additions, name ∉ addition.generated

instance [Limits] (history : History) : Decidable history.SymbolsAvoid :=
  inferInstanceAs (Decidable (∀ name ∈ history.names, _ ∧ ∀ addition ∈ history.additions, _))

theorem SymbolsAvoid.of_mem_symbols [Limits] (avoid : history.SymbolsAvoid) {addition : Addition} {name : String}
    (listed : addition ∈ history.additions) (member : name ∈ addition.chain.symbols) :
    name ∉ Name.reserved ∧ ∀ addition ∈ history.additions, name ∉ addition.generated :=
  avoid name (List.mem_append_left _ (List.mem_flatMap.2 ⟨addition, listed, member⟩))

/-- The start of sentences is no section. -/
theorem Sound.start_notMem_terminals [Limits] (sound : Sound transliterate history) (avoid : history.SymbolsAvoid) :
    Name.start ∉ history.terminals := by
  intro member
  have reserved : Name.start ∈ Name.reserved := List.mem_cons_self ..
  obtain fixed | given | ⟨addition, kept, headed⟩ := sound.terminals _ member
  · exact absurd fixed (by decide)
  · exact (avoid _ (List.mem_append_right _ given)).1 reserved
  · obtain ⟨identifier, found, _, named⟩ := (sound.shape (sound.kept kept)).exists_identifier_of_mem_vocabulary headed
    exact Chain.not_reserved_of_mem_sentenceIdentifiers found (named ▸ reserved)

/-- The start of sentences stands in no production. -/
theorem Sound.start_notMem_symbols [Limits] (sound : Sound transliterate history) (avoid : history.SymbolsAvoid)
    {addition : Addition} (listed : addition ∈ history.additions) {production : Production}
    (member : production ∈ addition.grammar) : Name.start ∉ production.symbols := by
  intro inside
  have reserved : Name.start ∈ Name.reserved := List.mem_cons_self ..
  rw [(sound.shape listed).grammar] at member
  obtain fixed | named | referenced := Chain.mem_symbols_of_mem_sentenceProductions member inside
  · exact absurd fixed (by decide)
  · obtain ⟨identifier, found, named⟩ := List.mem_map.1 named
    exact Chain.not_reserved_of_mem_sentenceIdentifiers found (named ▸ reserved)
  · exact (avoid.of_mem_symbols listed referenced).1 reserved

/-- What stands in an addition is replaced by productions of this addition only. -/
theorem Sound.settles [Limits] (sound : Sound transliterate history) (avoid : history.SymbolsAvoid) {addition : Addition}
    (kept : addition ∈ history.kept) {production : Production} (member : production ∈ addition.grammar) :
    addition.grammar.Settles history.session.grammar history.terminals production.symbols := by
  intro other found inside unknown
  have listed := sound.kept kept
  have notStart : other.name ≠ Name.start := fun same =>
    sound.start_notMem_symbols avoid listed member (same ▸ inside)
  rw [sound.grammar, List.mem_append, List.mem_flatMap] at found
  obtain preamble | ⟨second, keptToo, found⟩ := found
  · obtain rfl := List.mem_singleton.1 preamble
    exact absurd rfl notStart
  have listedToo := sound.kept keptToo
  have introduced : other.name ∈ second.grammar.map Production.name := List.mem_map_of_mem found
  rw [(sound.shape listed).grammar] at member
  obtain fixed | named | referenced := Chain.mem_symbols_of_mem_sentenceProductions member inside
  · exact absurd (sound.fixed fixed) unknown
  · -- The name is generated by both additions, so they are the same.
    obtain ⟨one, mine, named⟩ := List.mem_map.1 named
    obtain start | ⟨identifier, theirs, _, same⟩ := (sound.shape listedToo).name_iff.1 introduced
    · exact absurd start notStart
    · obtain ⟨rfl, _⟩ := sound.eq_of_name_eq listed listedToo mine theirs (named.trans same.symm)
      exact found
  · exact absurd (List.mem_append_left _ introduced) ((avoid.of_mem_symbols listed referenced).2 second listedToo)

theorem Sound.preamble_subset_terminals [Limits] (sound : Sound transliterate history) {production : Production}
    (member : production ∈ preambleGrammar) : production.symbols ⊆ history.terminals := by
  obtain rfl := List.mem_singleton.1 member
  exact List.Subset.trans (by decide) sound.fixed

/-- The preamble has one sentence. -/
theorem Sound.yield_preamble [Limits] (sound : Sound transliterate history) (unread : Name.start ∉ history.terminals) :
    preambleGrammar.yield history.terminals (fun name => [name]) [Name.start] =
      {[Name.silenceBegin, Name.noise, Name.silenceEnd]} := by
  have only : ∀ body, ⟨Name.start, body⟩ ∈ preambleGrammar ↔
      body ∈ [[Name.silenceBegin, Name.noise, Name.silenceEnd]] := by
    simp [preambleGrammar]
  have fixed := sound.preamble_subset_terminals (List.mem_singleton_self _)
  rw [Grammar.yield_name unread only, List.map_singleton, List.sum_singleton, Grammar.yield_terminals fixed]
  rfl

/-- If symbols have names of their own, the sentences of a session are that of the preamble and those of each addition
since the last reset, taken by itself. What an addition appended is what its pattern is lowered to. -/
theorem language_run_eq_add_sum [Limits] (transliterate : Transliterator) (operations : List Operation)
    (avoid : (run transliterate operations).SymbolsAvoid) :
    let history := run transliterate operations
    (∀ addition ∈ history.kept, addition.IsLowered transliterate) ∧
      (history.session.grammar.contextFree history.terminals).language =
        {[Name.silenceBegin, Name.noise, Name.silenceEnd]} +
          (history.kept.map fun addition => (addition.grammar.contextFree history.terminals).language).sum := by
  intro history
  have sound : Sound transliterate history := sound_run transliterate operations
  refine ⟨fun addition kept => sound.lowered addition (sound.kept kept), ?_⟩
  have unread := sound.start_notMem_terminals avoid
  have parts : history.session.grammar = (preambleGrammar :: history.kept.map Addition.grammar).flatten := by
    rw [sound.grammar, List.flatten_cons, List.flatMap_def]
  have closed : ∀ part ∈ preambleGrammar :: history.kept.map Addition.grammar, ∀ production ∈ part,
      part.Settles history.session.grammar history.terminals production.symbols := by
    rw [List.forall_mem_cons, List.forall_mem_map]
    refine ⟨fun production member other _ inside unknown => ?_, fun addition kept _ => sound.settles avoid kept⟩
    exact absurd (sound.preamble_subset_terminals member inside) unknown
  simp only [Grammar.contextFree_language unread]
  rw [parts] at closed ⊢
  rw [Grammar.yield_flatten unread closed, List.map_cons, List.sum_cons, sound.yield_preamble unread, List.map_map]
  rfl

/-- Patterns that refer to the same symbol before and after a reset, and one that cannot be parsed. -/
def sharedOperations : List Operation :=
  [.add ⟨"'a' <x>", "example", 1⟩, .addSymbol (.text "x") (.list [.text "b"]), .reset, .add ⟨"('a'", "example", 2⟩,
    .add ⟨"('a' | <x>)+", "example", 3⟩, .addSymbol (.text "x") (.list [.text "c"]), .add ⟨"'a'?", "example", 4⟩]

section
open scoped Workstation

theorem language_run_eq_add_sum_shared :
    let history := run Transliterator.verbatim sharedOperations
    history.SymbolsAvoid ∧ history.additions.length = 3 ∧ history.kept.length = 2 ∧
      (∀ addition ∈ history.kept, addition.IsLowered Transliterator.verbatim) ∧
      (history.session.grammar.contextFree history.terminals).language =
        {[Name.silenceBegin, Name.noise, Name.silenceEnd]} +
          (history.kept.map fun addition => (addition.grammar.contextFree history.terminals).language).sum := by
  have avoid : (run Transliterator.verbatim sharedOperations).SymbolsAvoid := by decide +kernel
  exact ⟨avoid, by decide +kernel, by decide +kernel, language_run_eq_add_sum Transliterator.verbatim _ avoid⟩

end

end History

end Utterance
