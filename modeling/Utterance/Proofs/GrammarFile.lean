import Utterance.Proofs.Fragments
import Utterance.Proofs.Reachability
import Utterance.Proofs.Rows

/-!
# The grammar file of a session

A grammar file is read strictly here: a line feed ends every line, a line is cut at the first tab, colon and space, and
what follows is cut at every space. Whatever was done to a session, its grammar file consists of lines of names and is
read as the productions that were appended (`read_grammar_run`). Nothing is dropped on reading, so no production may be
without symbols, and none is.
-/

namespace Utterance
set_option autoImplicit false
open Pattern

/-! ## Reading productions -/

namespace Production

/-- What stands between the name and the symbols. -/
def separator : List Char := ['\t', ':', ' ']

/-- The line is a name, the separator, and at least one name, with single spaces between them. -/
def IsLine (line : List Char) : Prop :=
  ∃ name symbols, IsName name ∧ symbols ≠ [] ∧ (∀ symbol ∈ symbols, IsName symbol) ∧
    line = name ++ separator ++ [' '].intercalate symbols

/-- The production that a line states. -/
def read (line : List Char) : Option Production :=
  (Text.cut separator line).map fun pieces =>
    ⟨String.ofList pieces.1, (pieces.2.splitOn ' ').map String.ofList⟩

/-- The production is made of names and replaces its name by something. -/
def IsLegible (production : Production) : Prop :=
  production.IsPlain ∧ production.symbols ≠ []

variable {production : Production}

theorem IsLegible.isLine_chars (legible : production.IsLegible) : IsLine production.chars := by
  obtain ⟨⟨isName, areNames⟩, nonempty⟩ := legible
  refine ⟨_, production.symbols.map String.toList, isName, ?_, ?_, rfl⟩
  · simpa using nonempty
  · rwa [List.forall_mem_map]

theorem IsLegible.read_chars (legible : production.IsLegible) : read production.chars = some production := by
  obtain ⟨⟨isName, areNames⟩, nonempty⟩ := legible
  have noTab : '\t' ∉ production.name.toList := notMem_of_isName isName (by decide)
  have noSpace : ∀ symbol ∈ production.symbols.map String.toList, ' ' ∉ symbol := by
    rw [List.forall_mem_map]
    exact fun symbol listed => notMem_of_isName (areNames symbol listed) (by decide)
  have pieces : ([' '].intercalate (production.symbols.map String.toList)).splitOn ' ' =
      production.symbols.map String.toList :=
    List.splitOn_intercalate ' ' noSpace (by simpa using nonempty)
  rw [read, separator, chars, List.append_assoc, Text.cut_append noTab, Option.map_some, pieces, List.map_map]
  simp [Function.comp_def]

end Production

namespace Grammar

/-- The productions that a grammar file states, line by line. -/
def read (text : String) : Option Grammar := do
  let lines ← Text.ended? text.toList
  lines.mapM Production.read

theorem toList_text (grammar : Grammar) :
    grammar.text.toList = (grammar.map Production.chars).flatMap (· ++ ['\n']) := by
  rw [text, String.toList_join, List.flatMap_map, List.flatMap_map]
  simp only [Production.toList_line]

variable {grammar : Grammar}

theorem mapM_read_chars (legible : ∀ production ∈ grammar, production.IsLegible) :
    (grammar.map Production.chars).mapM Production.read = some grammar := by
  induction grammar with
  | nil => rfl
  | cons production rest ih =>
    rw [List.forall_mem_cons] at legible
    rw [List.map_cons, List.mapM_cons, legible.1.read_chars, ih legible.2]
    rfl

/-- The text of a grammar is read as the grammar. -/
theorem read_text (legible : ∀ production ∈ grammar, production.IsLegible) : read grammar.text = some grammar := by
  have plain : ∀ line ∈ grammar.map Production.chars, '\n' ∉ line := by
    rw [List.forall_mem_map]
    exact fun production listed => Production.linefeed_notMem_chars (legible production listed).1
  rw [read, toList_text, Text.ended?_flatMap plain]
  exact mapM_read_chars legible

end Grammar

/-! ## What is appended can be read -/

theorem Repetition.ne_nil_of_mem_bodies {repetition : Repetition} {name : String} {body : List String}
    (spelled : repetition.IsSpelled) (listed : body ∈ repetition.bodies name) : body ≠ [] := by
  cases repetition with
  | range least most =>
    obtain ⟨natural, _⟩ := spelled
    obtain ⟨times, above, _, rfl⟩ := mem_countedBodies.1 listed
    rw [countedBody]
    split
    · exact List.cons_ne_nil _ _
    · -- a count below zero would give no symbols, but none can be written
      have positive : times.toNat ≠ 0 := by omega
      simpa using positive
  | zeroOrMore =>
    simp only [bodies, List.mem_cons, List.not_mem_nil, or_false] at listed
    obtain rfl | rfl | rfl := listed <;> exact List.cons_ne_nil _ _
  | oneOrMore =>
    simp only [bodies, List.mem_cons, List.not_mem_nil, or_false] at listed
    obtain rfl | rfl := listed <;> exact List.cons_ne_nil _ _
  | once => exact absurd listed List.not_mem_nil
  | other kind least most => exact absurd listed List.not_mem_nil

namespace Chain

variable {chain : Chain} {scope : String} {number : Int} {production : Production}

theorem ne_nil_of_mem_alternativeBodies {inner : Chain} {name : String} {body : List String}
    (listed : body ∈ inner.alternativeBodies name) : body ≠ [] := by
  obtain ⟨piece, found, rfl⟩ := List.mem_map.1 listed
  simpa using ne_nil_of_mem_splitAfter found

theorem symbols_ne_nil_of_mem_productions (spelled : ∀ repetition ∈ chain.repetitions, repetition.IsSpelled)
    (member : production ∈ chain.productions scope number) : production.symbols ≠ [] := by
  induction chain generalizing scope number with
  | nil => exact absurd member List.not_mem_nil
  | broken index => exact absurd member List.not_mem_nil
  | leaf content repetition closes next ih =>
    rw [repetitions, List.forall_mem_cons] at spelled
    obtain ⟨_, repeated⟩ | replaced | later := mem_productions_leaf.1 member
    · exact Repetition.ne_nil_of_mem_bodies spelled.1 repeated
    · cases content with
      | symbol reference =>
        rw [List.mem_singleton.1 replaced]
        exact List.cons_ne_nil _ _
      | literal text => exact absurd replaced List.not_mem_nil
      | other kind => exact absurd replaced List.not_mem_nil
    · exact ih spelled.2 later
  | group inner repetition closes next ihInner ih =>
    rw [repetitions, List.forall_mem_cons, List.forall_mem_append] at spelled
    obtain ⟨_, repeated⟩ | ⟨_, chosen⟩ | inside | later := mem_productions_group.1 member
    · exact Repetition.ne_nil_of_mem_bodies spelled.1 repeated
    · exact ne_nil_of_mem_alternativeBodies chosen
    · exact ihInner spelled.2.1 inside
    · exact ih spelled.2.2 later

theorem symbols_ne_nil_of_mem_sentenceProductions (spelled : ∀ repetition ∈ chain.repetitions, repetition.IsSpelled)
    (member : production ∈ chain.sentenceProductions number) : production.symbols ≠ [] := by
  obtain rfl | ⟨_, _, rfl⟩ | word := mem_sentenceProductions.1 member
  · exact List.cons_ne_nil _ _
  · exact List.cons_ne_nil _ _
  · exact symbols_ne_nil_of_mem_productions spelled word

end Chain

theorem Pattern.isName_of_parse [Limits] {source : Source} {table : NodeTable} (accepted : parse source = .ok table) :
    ∀ symbol ∈ table.chain.symbols, IsName symbol.toList := by
  obtain ⟨expression, spelled, denotes⟩ := exists_spelledBy_of_parse accepted
  rw [denotes, symbols_chain]
  exact isName_of_spelledBy spelled

variable {transliterate : Transliterator}

/-- What an operation appends to the grammar is legible. -/
theorem Operation.isLegible_of_fragment [Limits] {operation : Operation} {number : Int} {grammar : Grammar}
    {vocabulary : Vocabulary} (appended : operation.fragment transliterate number = .ok (grammar, vocabulary)) :
    ∀ production ∈ grammar, production.IsLegible := by
  cases operation with
  | add source =>
    obtain ⟨table, accepted, _, rfl, _⟩ := fragment_add_eq_ok appended
    intro production member
    exact ⟨Chain.isPlain_of_mem_sentenceProductions (isName_of_parse accepted) member,
      Chain.symbols_ne_nil_of_mem_sentenceProductions (isSpelled_of_parse accepted) member⟩
  | addSymbol name values =>
    rw [(fragment_addSymbol_eq_ok appended).1]
    exact fun _ member => absurd member List.not_mem_nil
  | reset =>
    cases appended
    exact fun _ member => absurd member List.not_mem_nil

theorem isLegible_preambleGrammar : ∀ production ∈ preambleGrammar, production.IsLegible := by
  intro production member
  rw [List.mem_singleton.1 member]
  refine ⟨⟨by decide, fun symbol inside => ?_⟩, List.cons_ne_nil _ _⟩
  simp only [List.mem_cons, List.not_mem_nil, or_false] at inside
  obtain rfl | rfl | rfl := inside <;> decide

/-- Every production of a session that was generated is legible. -/
theorem Journal.IsGenerated.isLegible [Limits] {journal : Journal} {number : Int}
    (generated : journal.IsGenerated transliterate number) :
    ∀ production ∈ journal.session.grammar, production.IsLegible := by
  rw [session, List.forall_mem_append]
  refine ⟨isLegible_preambleGrammar, fun production member => ?_⟩
  obtain ⟨event, recent, inside⟩ := List.mem_flatMap.1 member
  obtain ⟨_, _, _, appended⟩ := generated.exists_fragment (journal.kept_subset recent)
  exact Operation.isLegible_of_fragment appended production inside

/-- After any operations, the grammar file consists of lines of names, it is read as the productions that the operations
since the last reset appended, and none of these is without symbols. -/
theorem read_grammar_run [Limits] (transliterate : Transliterator) (operations : List Operation) :
    ∃ journal : Journal,
      journal.map Event.operation = Session.succeeded transliterate {} operations ∧
      journal.IsGenerated transliterate 0 ∧
      (∃ lines : List (List Char), (Session.run transliterate {} operations).grammar.text.toList =
          lines.flatMap (· ++ ['\n']) ∧
        ∀ line ∈ lines, Production.IsLine line) ∧
      Grammar.read (Session.run transliterate {} operations).grammar.text =
        some (preambleGrammar ++ journal.kept.flatMap Event.grammar) ∧
      ∀ production ∈ preambleGrammar ++ journal.kept.flatMap Event.grammar, production.symbols ≠ [] := by
  obtain ⟨journal, done, generated, ran⟩ := Journal.exists_journal transliterate operations
  have legible := generated.isLegible
  rw [ran]
  refine ⟨journal, done, generated, ⟨_, Grammar.toList_text _, ?_⟩, Grammar.read_text legible, ?_⟩
  · rw [List.forall_mem_map]
    exact fun production member => (legible production member).isLine_chars
  · exact fun production member => (legible production member).2

end Utterance
