import Utterance.Proofs.ExpressionChain
import Utterance.Proofs.GrammarText
import Utterance.Proofs.Parsing

/-!
# What a lowered pattern says

The grammar file of a pattern, read as a context-free grammar, has for its sentences what the pattern means between
the two silences, if noise is not counted and every section stands for its word (`spoken_eq_language`).
-/

namespace Utterance
set_option autoImplicit false
open Pattern

/-- What a terminal says: the word of its section, or itself if it has none. -/
def Vocabulary.wordOf (vocabulary : Vocabulary) (name : String) : Leaf :=
  match vocabulary.find? (fun block => block.name = name) with
  | some ⟨_, [entry]⟩ => .literal entry.word
  | _ => .symbol name

namespace Lowered

/-- The names that were generated: those of productions and of sections. -/
def generated (lowered : Lowered) : List String :=
  lowered.grammar.map Production.name ++ lowered.vocabulary.map Section.name

/-- The terminals: the fixed ones, the sections, and the symbols that are referred to. -/
def terminals (lowered : Lowered) (symbols : List String) : List String :=
  Name.fixed ++ lowered.vocabulary.map Section.name ++ symbols

/-- The sentences of the grammar file, as literals and symbols and without noise. -/
def spoken (lowered : Lowered) (symbols : List String) : Language Leaf :=
  {words | ∃ names ∈ ((Grammar.ofText lowered.grammar.text).contextFree (lowered.terminals symbols)).language,
    words = (names.filter (· ≠ Name.noise)).map lowered.vocabulary.wordOf}

/-- What a terminal says, noise being silent. -/
def reading (lowered : Lowered) (name : String) : List Leaf :=
  if name = Name.noise then [] else [lowered.vocabulary.wordOf name]

theorem flatMap_reading (lowered : Lowered) (names : List String) :
    names.flatMap lowered.reading = (names.filter (· ≠ Name.noise)).map lowered.vocabulary.wordOf := by
  induction names with
  | nil => rfl
  | cons name rest ih =>
    rw [List.flatMap_cons, ih, reading]
    by_cases noise : name = Name.noise <;> simp [noise]

/-- The sentences are what the start yields. -/
theorem spoken_eq_yield {lowered : Lowered} {symbols : List String}
    (unread : Name.start ∉ lowered.terminals symbols) :
    lowered.spoken symbols = (Grammar.ofText lowered.grammar.text).yield (lowered.terminals symbols) lowered.reading
      [Name.start] := by
  ext words
  rw [Grammar.mem_yield, Grammar.says_iff_exists_terminals]
  constructor
  · rintro ⟨names, derived, rfl⟩
    exact ⟨names, (Grammar.mem_contextFree_language unread).1 derived, (lowered.flatMap_reading names).symm⟩
  · rintro ⟨names, said, rfl⟩
    exact ⟨names, (Grammar.mem_contextFree_language unread).2 said, lowered.flatMap_reading names⟩

end Lowered

theorem Vocabulary.wordOf_of_mem {vocabulary : Vocabulary} (distinct : (vocabulary.map Section.name).Nodup)
    {name : String} {entry : Entry} (member : ⟨name, [entry]⟩ ∈ vocabulary) :
    vocabulary.wordOf name = .literal entry.word := by
  have found : vocabulary.find? (fun block => block.name = name) = some ⟨name, [entry]⟩ := by
    cases search : vocabulary.find? (fun block => block.name = name) with
    | none => simpa using List.find?_eq_none.1 search _ member
    | some block =>
      have named : block.name = name := by simpa using List.find?_some search
      rw [List.inj_on_of_nodup_map distinct (List.mem_of_find?_eq_some search) member named]
  rw [wordOf, found]

theorem Vocabulary.wordOf_of_notMem {vocabulary : Vocabulary} {name : String}
    (missing : name ∉ vocabulary.map Section.name) : vocabulary.wordOf name = .symbol name := by
  have notFound : vocabulary.find? (fun block => block.name = name) = none := by
    rw [List.find?_eq_none]
    intro block member same
    exact missing (List.mem_map.2 ⟨block, member, by simpa using same⟩)
  rw [wordOf, notFound]

namespace Chain

variable {transliterate : Transliterator} {number : Int} {chain : Chain}

/-- Every identifier of a sentence is a generated name. -/
theorem mem_generated_of_mem_sentenceIdentifiers {identifier : Identifier} (known : chain.IsKnown)
    (proper : chain.IsProper) (member : identifier ∈ chain.sentenceIdentifiers number) :
    identifier.name ∈ (chain.sentenceLowered transliterate number).generated := by
  rw [Lowered.generated, List.mem_append]
  cases heads : identifier.heads with
  | false =>
    obtain ⟨production, found, named⟩ := exists_production_of_mem_sentenceIdentifiers known proper member heads
    exact .inl (List.mem_map.2 ⟨production, found, named⟩)
  | true =>
    refine .inr ?_
    rw [sentenceLowered, map_name_sentenceSections]
    exact List.mem_map_of_mem (List.mem_filter.2 ⟨member, heads⟩)

/-- No symbol of the chain has a name that is given by hand or that the chain needs for itself. -/
def Avoids (number : Int) (chain : Chain) : Prop :=
  ∀ symbol ∈ chain.symbols, symbol ∉ Name.reserved ∧
    ∀ identifier ∈ chain.sentenceIdentifiers number, identifier.name ≠ symbol

theorem nodup_sentenceSections :
    ((chain.sections transliterate Name.wordScope number).map Section.name).Nodup := by
  rw [map_name_sentenceSections]
  exact nodup_sentenceIdentifiers.sublist (List.filter_sublist.map _)

theorem mem_terminals {name : String} :
    name ∈ (chain.sentenceLowered transliterate number).terminals chain.symbols ↔ name ∈ Name.fixed ∨
      (∃ identifier ∈ chain.sentenceIdentifiers number, identifier.heads = true ∧ identifier.name = name) ∨
      name ∈ chain.symbols := by
  simp only [Lowered.terminals, sentenceLowered, map_name_sentenceSections, List.mem_append, List.mem_map,
    List.mem_filter, or_assoc, and_assoc]

theorem start_notMem_terminals (avoids : chain.Avoids number) :
    Name.start ∉ (chain.sentenceLowered transliterate number).terminals chain.symbols := by
  rw [mem_terminals]
  rintro (fixed | ⟨identifier, member, _, named⟩ | referenced)
  · exact absurd fixed (by decide)
  · exact not_reserved_of_mem_sentenceIdentifiers member (named ▸ List.mem_cons_self ..)
  · exact (avoids _ referenced).1 (List.mem_cons_self ..)

/-- An identifier that heads no section is no terminal. -/
theorem identifier_notMem_terminals (avoids : chain.Avoids number) {identifier : Identifier}
    (member : identifier ∈ chain.sentenceIdentifiers number) (plain : identifier.heads = false) :
    identifier.name ∉ (chain.sentenceLowered transliterate number).terminals chain.symbols := by
  rw [mem_terminals]
  rintro (fixed | ⟨other, found, heads, named⟩ | referenced)
  · exact not_reserved_of_mem_sentenceIdentifiers member (List.mem_cons_of_mem _ fixed)
  · rw [List.inj_on_of_nodup_map nodup_sentenceIdentifiers found member named, plain] at heads
    cases heads
  · exact (avoids _ referenced).2 identifier member rfl

theorem mem_sentenceProductions_of_word {production : Production}
    (word : Name.Covers Name.wordScope production.name) : production ∈ chain.sentenceProductions number ↔
      production ∈ chain.productions Name.wordScope number := by
  rw [mem_sentenceProductions]
  refine ⟨?_, fun member => .inr (.inr member)⟩
  rintro (rfl | ⟨position, _, rfl⟩ | member)
  · exact absurd (List.mem_cons_self ..) (Name.not_reserved_of_covers_word word)
  · exact absurd word (Name.not_covers_word_of_covers_root (Name.covers_child _ _))
  · exact member

/-- The grammar of a sentence hosts its words. -/
theorem hosted_sentence (known : chain.IsKnown) (proper : chain.IsProper) (avoids : chain.Avoids number) :
    chain.Hosted transliterate Name.wordScope number (chain.sentenceProductions number)
      ((chain.sentenceLowered transliterate number).terminals chain.symbols)
      (chain.sentenceLowered transliterate number).reading where
  known := known
  proper := proper
  same := fun production numbered => mem_sentenceProductions_of_word numbered.covers
  unread := by
    intro production member
    obtain ⟨identifier, found, plain, named⟩ := exists_identifier_of_mem_productions member
    rw [← named]
    exact identifier_notMem_terminals avoids (mem_sentenceIdentifiers.2 (.inr found)) plain
  literals := by
    rintro ⟨name, entries⟩ member
    have listed : name ∈ ((chain.sections transliterate Name.wordScope number).map Section.name) :=
      List.mem_map_of_mem member
    refine ⟨List.mem_append_left _ (List.mem_append_right _ listed), fun entry inside => ?_⟩
    have notNoise : name ≠ Name.noise := by
      rintro rfl
      have reserved : Name.noise ∈ Name.reserved := by decide
      exact Name.not_reserved_of_covers_word (numbered_of_mem_sections member).covers reserved
    obtain ⟨text, rfl⟩ : ∃ text, entries = _ := exists_literal_of_mem_sections member
    obtain rfl := List.mem_singleton.1 inside
    rw [Lowered.reading, if_neg notNoise]
    exact congrArg (fun leaf => [leaf]) (Vocabulary.wordOf_of_mem nodup_sentenceSections member)
  symbols := by
    intro name member
    refine ⟨List.mem_append_right _ member, ?_⟩
    have notNoise : name ≠ Name.noise := by
      rintro rfl
      exact (avoids _ member).1 (by decide)
    rw [Lowered.reading, if_neg notNoise, Vocabulary.wordOf_of_notMem]
    rw [sentenceLowered, map_name_sentenceSections]
    intro listed
    obtain ⟨identifier, found, named⟩ := List.mem_map.1 listed
    exact (avoids _ member).2 identifier (List.mem_filter.1 found).1 named
  noise := mem_terminals.2 (.inl (by decide))
  silent := if_pos rfl

/-- What names yield in the grammar of a sentence. -/
def sentenceYield (transliterate : Transliterator) (number : Int) (chain : Chain) : List String → Language Leaf :=
  (chain.sentenceProductions number).yield ((chain.sentenceLowered transliterate number).terminals chain.symbols)
    (chain.sentenceLowered transliterate number).reading

/-- A root of a sentence yields what its word yields. -/
theorem sentenceYield_root (avoids : chain.Avoids number) {position : Nat} (inside : position < chain.count) :
    chain.sentenceYield transliterate number [Name.child Name.rootScope (number + position)] =
      chain.sentenceYield transliterate number [Name.child Name.wordScope (number + position)] := by
  have unread : Name.child Name.rootScope (number + position) ∉
      (chain.sentenceLowered transliterate number).terminals chain.symbols :=
    identifier_notMem_terminals avoids (mem_sentenceIdentifiers.2 (.inl ⟨position, inside, rfl⟩)) rfl
  have only : ∀ body, ⟨Name.child Name.rootScope (number + position), body⟩ ∈ chain.sentenceProductions number ↔
      body ∈ [[Name.child Name.wordScope (number + position)]] := by
    intro body
    rw [mem_sentenceProductions, List.mem_singleton]
    constructor
    · rintro (same | ⟨other, _, same⟩ | member)
      · exact absurd (congrArg Production.name same) (Name.child_root_ne_start _)
      · have numbers := Name.child_injective (congrArg Production.name same)
        simpa [numbers] using congrArg Production.symbols same
      · exact absurd (numbered_of_mem_productions member).covers
          (Name.not_covers_word_of_covers_root (Name.covers_child _ _))
    · rintro rfl
      exact .inr (.inl ⟨position, inside, rfl⟩)
  rw [sentenceYield, Grammar.yield_name unread only]
  simp

/-- A fixed terminal other than noise yields itself. -/
theorem sentenceYield_fixed {name : String} (fixed : name ∈ Name.fixed) (notNoise : name ≠ Name.noise) :
    chain.sentenceYield transliterate number [name] = {[.symbol name]} := by
  rw [sentenceYield, Grammar.yield_terminal (mem_terminals.2 (.inl fixed)), Lowered.reading, if_neg notNoise,
    Vocabulary.wordOf_of_notMem]
  rw [sentenceLowered, map_name_sentenceSections]
  intro listed
  obtain ⟨identifier, found, named⟩ := List.mem_map.1 listed
  have reserved : name ∈ Name.reserved := List.mem_cons_of_mem _ fixed
  exact not_reserved_of_mem_sentenceIdentifiers (List.mem_filter.1 found).1 (named ▸ reserved)

/-- A sentence yields what its items say, between the silences. -/
theorem sentenceYield_start (known : chain.IsKnown) (proper : chain.IsProper) (avoids : chain.Avoids number) :
    chain.sentenceYield transliterate number [Name.start] =
      {[.symbol Name.silenceBegin]} * (chain.languages.map Prod.fst).prod * {[.symbol Name.silenceEnd]} := by
  set roots := (List.range chain.count).map fun (i : Nat) => Name.child Name.rootScope (number + i) with allRoots
  have only : ∀ body, ⟨Name.start, body⟩ ∈ chain.sentenceProductions number ↔
      body ∈ [Name.silenceBegin :: roots ++ [Name.silenceEnd]] := by
    intro body
    rw [mem_sentenceProductions, List.mem_singleton, ← allRoots]
    constructor
    · rintro (same | ⟨position, _, same⟩ | member)
      · exact congrArg Production.symbols same
      · exact absurd (congrArg Production.name same).symm (Name.child_root_ne_start _)
      · exact absurd (List.mem_cons_self ..)
          (Name.not_reserved_of_covers_word (numbered_of_mem_productions member).covers)
    · rintro rfl
      exact .inl rfl
  have hosted := @hosted_sentence transliterate number chain known proper avoids
  have words : roots.map (fun root => chain.sentenceYield transliterate number [root]) =
      chain.languages.map Prod.fst := by
    calc roots.map (fun root => chain.sentenceYield transliterate number [root])
        = (List.range chain.count).map fun (i : Nat) =>
            chain.sentenceYield transliterate number [Name.child Name.wordScope (number + i)] := by
          rw [allRoots, List.map_map]
          exact List.map_congr_left fun i inside => sentenceYield_root avoids (List.mem_range.1 inside)
      _ = ((chain.numbering number).map Prod.fst).map fun n =>
            chain.sentenceYield transliterate number [Name.child Name.wordScope n] := by
          rw [map_fst_numbering, List.map_map]
          rfl
      _ = chain.languages.map Prod.fst := by
          rw [← yield_items hosted, List.map_map, List.map_map]
          rfl
  have begins := @sentenceYield_fixed transliterate number chain Name.silenceBegin (by decide) (by decide)
  have ends := @sentenceYield_fixed transliterate number chain Name.silenceEnd (by decide) (by decide)
  rw [← begins, ← ends, ← words, sentenceYield, Grammar.yield_name (start_notMem_terminals avoids) only,
    List.map_singleton, List.sum_singleton, Grammar.yield_append, Grammar.yield_cons, Grammar.yield_eq_prod roots]

end Chain

namespace Pattern

/-- The texts of the literals of an expression. -/
def Expression.literals (expression : Expression) : List String :=
  expression.atoms.filterMap fun
    | .literal text => some text
    | .symbol _ => none

/-- The names of the symbols of an expression. -/
def Expression.symbols (expression : Expression) : List String :=
  expression.atoms.filterMap fun
    | .literal _ => none
    | .symbol name => some name

theorem literals_chain (expression : Expression) :
    (Phrase.chain expression false .nil).literals = expression.literals := by
  rw [Chain.literals, Phrase.leaves_chain, Chain.leaves, List.append_nil, List.filterMap_map]
  refine congrArg (fun pick => List.filterMap pick expression.atoms) (funext fun atom => ?_)
  cases atom <;> rfl

theorem symbols_chain (expression : Expression) :
    (Phrase.chain expression false .nil).symbols = expression.symbols := by
  rw [Chain.symbols, Phrase.leaves_chain, Chain.leaves, List.append_nil, List.filterMap_map]
  refine congrArg (fun pick => List.filterMap pick expression.atoms) (funext fun atom => ?_)
  cases atom <;> rfl

/-- Every atom of what a text spells has a spelling. -/
theorem exists_mem_spellings_of_spelledBy {expression : Expression} {text : List Char}
    (spelled : expression.SpelledBy text) : ∀ atom ∈ expression.atoms, ∃ tokens, tokens ∈ atom.spellings := by
  obtain ⟨_, listed, _⟩ := spelled
  obtain ⟨written, _, rfl, proper⟩ := mem_spellings_iff.1 listed
  rw [Phrase.meaning, Phrase.atoms_map, List.forall_mem_map]
  intro read found
  exact ⟨read.tokens, ((Written.isProper_iff written).1 proper).1 read found⟩

theorem isName_of_spelledBy {expression : Expression} {text : List Char} (spelled : expression.SpelledBy text) :
    ∀ symbol ∈ expression.symbols, IsName symbol.toList := by
  intro symbol member
  obtain ⟨atom, inside, picked⟩ := List.mem_filterMap.1 member
  obtain ⟨tokens, isName⟩ := exists_mem_spellings_of_spelledBy spelled atom inside
  cases atom with
  | literal text => cases picked
  | symbol name =>
    cases picked
    exact isName.1

theorem isOrdered_of_spelledBy {expression : Expression} {text : List Char} (spelled : expression.SpelledBy text) :
    ∀ r ∈ expression.repeats, r.IsOrdered := by
  obtain ⟨_, listed, _⟩ := spelled
  obtain ⟨written, _, rfl, proper⟩ := mem_spellings_iff.1 listed
  exact proper.2.2

/-- The chain of a table that was parsed has items, and its ranges and groups are not empty. -/
theorem isProper_of_parse [Limits] {source : Source} {table : NodeTable} (accepted : parse source = .ok table) :
    table.chain.count ≠ 0 ∧ table.chain.IsProper := by
  obtain ⟨expression, spelled, denotes⟩ := exists_spelledBy_of_parse accepted
  rw [denotes]
  exact ⟨Phrase.count_chain_ne_zero expression _ _,
    Phrase.isProper_chain expression (isOrdered_of_spelledBy spelled) trivial⟩

end Pattern

/-- A pattern is lowered if its literals have phones and the machine can hold the result. Unless a symbol has a name
that is given by hand or generated, the sentences of the grammar file are then what the pattern means, between silences.
-/
theorem spoken_eq_language [Limits] {source : Source} {table : NodeTable} {expression : Expression}
    (accepted : Pattern.parse source = .ok table) (spelled : expression.SpelledBy source.pattern.toList)
    (transliterate : Transliterator) (number : Int)
    (pronounceable : ∀ text ∈ expression.literals, ∃ phones, transliterate text = .ok phones) :
    ((∃ lowered, table.lower transliterate number = .ok lowered) ↔ table.chain.Fits number) ∧
      ∀ lowered, table.lower transliterate number = .ok lowered →
        (∀ symbol ∈ expression.symbols, symbol ∉ Name.reserved ∧ symbol ∉ lowered.generated) →
        lowered.spoken expression.symbols =
          {[.symbol Name.silenceBegin]} * expression.language * {[.symbol Name.silenceEnd]} := by
  obtain ⟨other, spelledToo, denotes⟩ := exists_spelledBy_of_parse accepted
  obtain rfl := SpelledBy.unique spelled spelledToo
  have known : table.chain.IsKnown := denotes ▸ Phrase.isKnown_chain expression trivial
  obtain ⟨_, proper⟩ := isProper_of_parse accepted
  have sounds : table.chain.Pronounceable transliterate := by
    rwa [Chain.Pronounceable, denotes, literals_chain]
  have symbols : table.chain.symbols = expression.symbols := denotes ▸ symbols_chain expression
  refine ⟨⟨?_, fun fits => ⟨_, NodeTable.lower_eq_ok_iff.2 ⟨known, fits, sounds, rfl⟩⟩⟩, ?_⟩
  · rintro ⟨lowered, lowers⟩
    exact (NodeTable.lower_eq_ok_iff.1 lowers).2.1
  · intro lowered lowers free
    obtain ⟨_, _, _, rfl⟩ := NodeTable.lower_eq_ok_iff.1 lowers
    have avoids : table.chain.Avoids number := by
      intro symbol member
      obtain ⟨unreserved, ungenerated⟩ := free symbol (symbols ▸ member)
      refine ⟨unreserved, fun identifier found named => ungenerated ?_⟩
      exact named ▸ Chain.mem_generated_of_mem_sentenceIdentifiers known proper found
    have isName : ∀ symbol ∈ table.chain.symbols, IsName symbol.toList :=
      symbols ▸ isName_of_spelledBy spelled
    have language : (table.chain.languages.map Prod.fst).prod = Phrase.language expression := by
      rw [denotes, Phrase.prod_languages_chain]
    have readBack := @Chain.ofText_text_sentenceProductions table.chain number isName
    rw [← symbols, Lowered.spoken_eq_yield (Chain.start_notMem_terminals avoids), ← language]
    calc (Grammar.ofText (Grammar.text (table.chain.sentenceProductions number))).yield _ _ [Name.start]
        = table.chain.sentenceYield transliterate number [Name.start] := by rw [readBack]; rfl
      _ = _ := Chain.sentenceYield_start known proper avoids

/-- A repeated group with a symbol in it, and an optional literal after it. -/
def repeatedSource : Source := ⟨"('a' | <b-1>)+ \"c\"?", "example", 1⟩

section
open scoped Workstation

theorem spoken_eq_language_repeated : ∃ table lowered, ∃ expression : Expression,
    Pattern.parse repeatedSource = .ok table ∧ expression.SpelledBy repeatedSource.pattern.toList ∧
      table.lower Transliterator.verbatim 7 = .ok lowered ∧ lowered.spoken expression.symbols =
        {[.symbol Name.silenceBegin]} * expression.language * {[.symbol Name.silenceEnd]} := by
  obtain ⟨table, accepted, lowers, free⟩ : ∃ table, Pattern.parse repeatedSource = .ok table ∧
      table.lower Transliterator.verbatim 7 = .ok (table.chain.sentenceLowered Transliterator.verbatim 7) ∧
      ∀ symbol ∈ table.chain.symbols, symbol ∉ Name.reserved ∧
        symbol ∉ (table.chain.sentenceLowered Transliterator.verbatim 7).generated :=
    ⟨_, rfl, by decide +kernel, by decide +kernel⟩
  obtain ⟨expression, spelled, denotes⟩ := exists_spelledBy_of_parse accepted
  have symbols : table.chain.symbols = expression.symbols := denotes ▸ symbols_chain expression
  exact ⟨table, _, expression, accepted, spelled, lowers,
    (spoken_eq_language accepted spelled Transliterator.verbatim 7 fun text _ => ⟨text, rfl⟩).2 _ lowers (symbols ▸ free)⟩

end

end Utterance
