import Utterance.Proofs.GrammarFile
import Utterance.Proofs.KanaText

/-!
# The vocabulary file of a session

A vocabulary file is read line by line: one that starts with a percent sign and a space is the heading of a section, any
other an entry, whose word ends at the first tab. Nothing is escaped in such a file, so a word with a tab in it is
written but read as a shorter one. With kana, the file of a session is read as the sections that were appended if and
only if no value of a symbol has a tab (`read_vocabulary_run`); a literal cannot have one, but a tab in a value is
skipped when it is spoken.
-/

namespace Utterance
set_option autoImplicit false
open Pattern Phonetic

/-! ## Reading sections -/

namespace Entry

/-- The entry as characters, without the line feed after it. -/
def chars (entry : Entry) : List Char :=
  entry.word.toList ++ '\t' :: entry.phones.toList

/-- The entry that a line states. -/
def read (line : List Char) : Option Entry :=
  (Text.cut ['\t'] line).map fun pieces => ⟨String.ofList pieces.1, String.ofList pieces.2⟩

/-- The line of the entry is one line and no heading. -/
structure IsLegible (entry : Entry) : Prop where
  word : '\n' ∉ entry.word.toList
  phones : '\n' ∉ entry.phones.toList
  noHeading : '%' ∉ entry.word.toList

theorem toList_line (entry : Entry) : entry.line.toList = entry.chars ++ ['\n'] := by
  simp [line, chars]

theorem read_chars {entry : Entry} (noTab : '\t' ∉ entry.word.toList) : read entry.chars = some entry := by
  have pieces : Text.cut ['\t'] entry.chars = some (entry.word.toList, entry.phones.toList) :=
    Text.cut_append noTab entry.phones.toList
  rw [read, pieces, Option.map_some, String.ofList_toList, String.ofList_toList]

theorem noTab_of_read {line : List Char} {entry : Entry} (stated : read line = some entry) :
    '\t' ∉ entry.word.toList := by
  obtain ⟨⟨word, phones⟩, found, rfl⟩ := Option.map_eq_some_iff.1 stated
  rw [String.toList_ofList]
  exact Text.notMem_of_cut found

end Entry

namespace Section

/-- The name that a heading states. -/
def heading? : List Char → Option (List Char)
  | '%' :: ' ' :: name => some name
  | _ => none

/-- The lines of a section. -/
def lines (block : Section) : List (List Char) :=
  ('%' :: ' ' :: block.name.toList) :: block.entries.map Entry.chars

/-- Every line of the section is one line, and only the first is a heading. -/
def IsLegible (block : Section) : Prop :=
  '\n' ∉ block.name.toList ∧ ∀ entry ∈ block.entries, entry.IsLegible

theorem toList_text (block : Section) : block.text.toList = block.lines.flatMap (· ++ ['\n']) := by
  simp [text, lines, String.toList_join, List.flatMap_map, Entry.toList_line]

theorem heading?_chars {entry : Entry} (legible : entry.IsLegible) : heading? entry.chars = none := by
  have noHeading := legible.noHeading
  rw [Entry.chars]
  cases word : entry.word.toList with
  | nil => rfl
  | cons c rest =>
    rw [word, List.mem_cons, not_or] at noHeading
    rw [List.cons_append, heading?]
    intro name same
    exact absurd (List.cons.inj same).1.symm noHeading.1

theorem IsLegible.linefeed_notMem_lines {block : Section} (legible : block.IsLegible) :
    ∀ line ∈ block.lines, '\n' ∉ line := by
  refine List.forall_mem_cons.2 ⟨?_, List.forall_mem_map.2 fun entry listed => ?_⟩
  · simpa using legible.1
  · have parts := legible.2 entry listed
    simpa [Entry.chars] using ⟨parts.word, parts.phones⟩

end Section

namespace Vocabulary

/-- What a line states before the entries and sections of the lines after it: a heading takes the entries up to the next
heading, and any other line is one entry more. -/
def readLine (line : List Char) (later : List Entry × Vocabulary) : Option (List Entry × Vocabulary) :=
  match Section.heading? line with
  | some name => some ([], ⟨String.ofList name, later.1⟩ :: later.2)
  | none => (Entry.read line).map fun entry => (entry :: later.1, later.2)

/-- The sections that lines state, and the entries before the first heading. -/
def readLines : List (List Char) → Option (List Entry × Vocabulary)
  | [] => some ([], [])
  | line :: rest => (readLines rest).bind (readLine line)

/-- The sections that a vocabulary file states. None may be missing the heading. -/
def read (text : String) : Option Vocabulary := do
  let lines ← Text.ended? text.toList
  let stated ← readLines lines
  if stated.1.isEmpty then some stated.2 else none

/-- No word has a tab. -/
def IsTabless (vocabulary : Vocabulary) : Prop :=
  ∀ block ∈ vocabulary, ∀ entry ∈ block.entries, '\t' ∉ entry.word.toList

variable {vocabulary : Vocabulary}

theorem toList_text (vocabulary : Vocabulary) :
    vocabulary.text.toList = (vocabulary.flatMap Section.lines).flatMap (· ++ ['\n']) := by
  rw [text, String.toList_join, List.flatMap_map, List.flatMap_assoc]
  simp only [Section.toList_text]

theorem readLines_entries {list : List Entry} (legible : ∀ entry ∈ list, entry.IsLegible)
    (tabless : ∀ entry ∈ list, '\t' ∉ entry.word.toList) {rest : List (List Char)} {entries : List Entry}
    {blocks : Vocabulary} (stated : readLines rest = some (entries, blocks)) :
    readLines (list.map Entry.chars ++ rest) = some (list ++ entries, blocks) := by
  induction list with
  | nil => exact stated
  | cons entry others ih =>
    rw [List.forall_mem_cons] at legible tabless
    rw [List.map_cons, List.cons_append, readLines, ih legible.2 tabless.2, Option.bind_some, readLine,
      Section.heading?_chars legible.1, Entry.read_chars tabless.1]
    rfl

theorem readLines_lines (legible : ∀ block ∈ vocabulary, block.IsLegible) (tabless : vocabulary.IsTabless) :
    readLines (vocabulary.flatMap Section.lines) = some ([], vocabulary) := by
  induction vocabulary with
  | nil => rfl
  | cons block rest ih =>
    rw [List.forall_mem_cons] at legible
    obtain ⟨here, later⟩ := List.forall_mem_cons.1 tabless
    have entries := readLines_entries legible.1.2 here (ih legible.2 later)
    rw [List.flatMap_cons, Section.lines, List.cons_append, readLines, entries, Option.bind_some, List.append_nil]
    simp only [readLine, Section.heading?, String.ofList_toList]

/-- No word that is read has a tab. -/
theorem isTabless_of_readLines {lines : List (List Char)} {entries : List Entry}
    (stated : readLines lines = some (entries, vocabulary)) :
    (∀ entry ∈ entries, '\t' ∉ entry.word.toList) ∧ vocabulary.IsTabless := by
  induction lines generalizing entries vocabulary with
  | nil =>
    cases stated
    exact ⟨fun _ member => absurd member List.not_mem_nil, fun _ member => absurd member List.not_mem_nil⟩
  | cons line rest ih =>
    obtain ⟨later, before, here⟩ := Option.bind_eq_some_iff.1 stated
    obtain ⟨tabless, after⟩ := ih before
    rw [readLine] at here
    split at here
    · cases here
      exact ⟨fun _ member => absurd member List.not_mem_nil, List.forall_mem_cons.2 ⟨tabless, after⟩⟩
    · obtain ⟨entry, read, same⟩ := Option.map_eq_some_iff.1 here
      cases same
      exact ⟨List.forall_mem_cons.2 ⟨Entry.noTab_of_read read, tabless⟩, after⟩

/-- The text of a vocabulary is read as the vocabulary exactly if no word has a tab. -/
theorem read_text_iff (legible : ∀ block ∈ vocabulary, block.IsLegible) :
    read vocabulary.text = some vocabulary ↔ vocabulary.IsTabless := by
  have plain : ∀ line ∈ vocabulary.flatMap Section.lines, '\n' ∉ line := by
    intro line member
    obtain ⟨block, listed, inside⟩ := List.mem_flatMap.1 member
    exact (legible block listed).linefeed_notMem_lines line inside
  rw [read, toList_text, Text.ended?_flatMap plain, Option.bind_eq_bind, Option.bind_some]
  constructor
  · intro read
    obtain ⟨stated, found, same⟩ := Option.bind_eq_some_iff.1 read
    split at same
    · cases same
      exact (isTabless_of_readLines found).2
    · cases same
  · intro tabless
    rw [readLines_lines legible tabless]
    rfl

end Vocabulary

/-! ## What is appended -/

theorem Pattern.Escaped.noBreak {quote : Char} {written text : List Char} (escaped : Escaped quote written text) :
    ∀ c ∈ text, isBreak c = false := by
  induction escaped with
  | nil => exact fun _ member => absurd member List.not_mem_nil
  | plain _ _ noBreak _ ih => exact List.forall_mem_cons.2 ⟨Bool.eq_false_iff.2 noBreak, ih⟩
  | escaped noBreak _ ih => exact List.forall_mem_cons.2 ⟨Bool.eq_false_iff.2 noBreak, ih⟩

/-- No literal has a line break or a tab. -/
theorem Pattern.noBreak_of_parse [Limits] {source : Source} {table : NodeTable} (accepted : parse source = .ok table) :
    ∀ text ∈ table.chain.literals, ∀ c ∈ text.toList, isBreak c = false := by
  obtain ⟨expression, spelled, denotes⟩ := exists_spelledBy_of_parse accepted
  rw [denotes, literals_chain]
  intro text member
  obtain ⟨atom, inside, picked⟩ := List.mem_filterMap.1 member
  obtain ⟨tokens, isSpelling⟩ := exists_mem_spellings_of_spelledBy spelled atom inside
  cases atom with
  | literal content =>
    cases picked
    obtain ⟨_, _, ⟨_, _, _, escaped, _⟩, _⟩ := isSpelling
    exact escaped.noBreak
  | symbol name => cases picked

/-- Every literal of a chain has a section with one entry. -/
theorem Chain.map_entries_sections (chain : Chain) (transliterate : Transliterator) (scope : String) (number : Int) :
    (chain.sections transliterate scope number).map Section.entries =
      chain.literals.map fun text => [transliterate.entryOf text] := by
  induction chain generalizing scope number with
  | nil => rfl
  | broken index => rfl
  | leaf content repetition closes next ih =>
    rw [sections, List.map_append, ih]
    cases content <;> rfl
  | group inner repetition closes next ihInner ih =>
    rw [sections, List.map_append, ihInner, ih, ← List.map_append, literals, literals, literals, leaves,
      List.filterMap_append]

/-- The values that an operation gives to a symbol. -/
def Operation.words : Operation → List String
  | .addSymbol _ values => values.texts?.getD []
  | _ => []

/-- What an operation appends to the vocabulary: a section with one entry for each literal of a pattern, and a section
with an entry for each value of a symbol. -/
def Event.Lists [Limits] (transliterate : Transliterator) (event : Event) : Prop :=
  match event.operation with
  | .add source => ∃ table, parse source = .ok table ∧
      event.vocabulary.map Section.entries = table.chain.literals.map fun text => [transliterate.entryOf text]
  | .addSymbol name _ => ∃ text, name = .text text ∧
      event.vocabulary = [⟨text, event.operation.words.map transliterate.entryOf⟩]
  | .reset => event.vocabulary = []

theorem Operation.words_addSymbol {name : Scalar} {values : SymbolValues} {words : List String}
    (collected : values.texts? = some words) : (Operation.addSymbol name values).words = words := by
  rw [Operation.words, collected, Option.getD_some]

theorem Event.lists_of_fragment [Limits] {transliterate : Transliterator} {event : Event} {number : Int}
    (appended : event.operation.fragment transliterate number = .ok (event.grammar, event.vocabulary)) :
    event.Lists transliterate := by
  obtain ⟨operation, grammar, vocabulary⟩ := event
  cases operation with
  | add source =>
    obtain ⟨table, accepted, _, _, same⟩ := Operation.fragment_add_eq_ok appended
    exact ⟨table, accepted, same ▸ table.chain.map_entries_sections transliterate Name.wordScope number⟩
  | addSymbol name values =>
    obtain ⟨_, text, words, named, _, collected, _, same⟩ := Operation.fragment_addSymbol_eq_ok appended
    refine ⟨text, named, ?_⟩
    rw [Operation.words_addSymbol collected]
    exact same
  | reset =>
    cases appended
    rfl

/-! ## What kana append -/

theorem isLegible_entryOf_kana {word phones : String} (said : Transliterator.kana word = .ok phones) :
    (Transliterator.kana.entryOf word).IsLegible where
  word member := absurd (isSpoken_of_kana (mapError_eq_ok_iff.1 said) _ member) (by decide)
  phones member := by
    rw [Transliterator.entryOf, Transliterator.phones, said] at member
    exact absurd (isPhonetic_of_kana (mapError_eq_ok_iff.1 said) _ member) (by decide)
  noHeading member := absurd (isSpoken_of_kana (mapError_eq_ok_iff.1 said) _ member) (by decide)

theorem linefeed_notMem_of_isSymbolName {name : String} (isName : isSymbolName name = true) : '\n' ∉ name.toList := by
  rw [isSymbolName, Bool.and_eq_true] at isName
  intro member
  exact absurd (List.all_eq_true.1 isName.2 _ member) (by decide)

/-- What is appended can be read, but for its tabs. -/
theorem Operation.isLegible_sections_of_fragment [Limits] {operation : Operation} {number : Int} {grammar : Grammar}
    {vocabulary : Vocabulary} (appended : operation.fragment .kana number = .ok (grammar, vocabulary)) :
    ∀ block ∈ vocabulary, block.IsLegible := by
  cases operation with
  | add source =>
    obtain ⟨table, _, pronounceable, _, rfl⟩ := fragment_add_eq_ok appended
    intro block member
    constructor
    · have named := List.mem_map_of_mem (f := Section.name) member
      rw [Chain.map_name_sentenceSections] at named
      obtain ⟨identifier, heads, same⟩ := List.mem_map.1 named
      rw [← same]
      exact notMem_of_isName (Chain.isName_of_mem_sentenceIdentifiers (List.mem_filter.1 heads).1) (by decide)
    · have listed := List.mem_map_of_mem (f := Section.entries) member
      rw [Chain.map_entries_sections] at listed
      obtain ⟨text, literal, same⟩ := List.mem_map.1 listed
      obtain ⟨_, said⟩ := pronounceable text literal
      rw [← same, List.forall_mem_singleton]
      exact isLegible_entryOf_kana said
  | addSymbol name values =>
    obtain ⟨_, text, words, _, isName, _, spoken, rfl⟩ := fragment_addSymbol_eq_ok appended
    rw [List.forall_mem_singleton]
    refine ⟨linefeed_notMem_of_isSymbolName isName, List.forall_mem_map.2 fun word listed => ?_⟩
    obtain ⟨_, said⟩ := spoken word listed
    exact isLegible_entryOf_kana said
  | reset =>
    cases appended
    exact fun _ member => absurd member List.not_mem_nil

/-- A tab comes into a vocabulary only with a value of a symbol. -/
theorem Event.Lists.isTabless_iff [Limits] {transliterate : Transliterator} {event : Event}
    (lists : event.Lists transliterate) :
    Vocabulary.IsTabless event.vocabulary ↔ ∀ word ∈ event.operation.words, '\t' ∉ word.toList := by
  obtain ⟨operation, grammar, vocabulary⟩ := event
  cases operation with
  | add source =>
    obtain ⟨table, accepted, same⟩ := lists
    refine iff_of_true (fun block member => ?_) fun _ member => absurd member List.not_mem_nil
    have listed : block.entries ∈ vocabulary.map Section.entries := List.mem_map_of_mem member
    rw [same] at listed
    obtain ⟨text, literal, entries⟩ := List.mem_map.1 listed
    rw [← entries, List.forall_mem_singleton]
    exact fun tab => absurd (noBreak_of_parse accepted text literal _ tab) (by decide)
  | addSymbol name values =>
    obtain ⟨text, _, same⟩ := lists
    change vocabulary = _ at same
    rw [Vocabulary.IsTabless, same, List.forall_mem_singleton, List.forall_mem_map]
    rfl
  | reset =>
    obtain rfl : vocabulary = [] := lists
    exact iff_of_true (fun _ member => absurd member List.not_mem_nil) fun _ member => absurd member List.not_mem_nil

namespace Journal

variable {journal : Journal} {number : Int}

theorem IsGenerated.lists [Limits] {transliterate : Transliterator} (generated : journal.IsGenerated transliterate number) :
    ∀ event ∈ journal.kept, event.Lists transliterate := by
  intro event recent
  obtain ⟨_, _, _, appended⟩ := generated.exists_fragment (journal.kept_subset recent)
  exact Event.lists_of_fragment appended

theorem IsGenerated.isLegible_sections [Limits] (generated : journal.IsGenerated .kana number) :
    ∀ block ∈ journal.session.vocabulary, block.IsLegible := by
  rw [session, List.forall_mem_append]
  constructor
  · intro block member
    simp only [preambleVocabulary, List.mem_cons, List.not_mem_nil, or_false] at member
    obtain rfl | rfl | rfl := member <;>
      exact ⟨by decide, List.forall_mem_singleton.2 ⟨by decide, by decide, by decide⟩⟩
  · intro block member
    obtain ⟨event, recent, inside⟩ := List.mem_flatMap.1 member
    obtain ⟨_, _, _, appended⟩ := generated.exists_fragment (journal.kept_subset recent)
    exact Operation.isLegible_sections_of_fragment appended block inside

theorem IsGenerated.isTabless_iff [Limits] {transliterate : Transliterator}
    (generated : journal.IsGenerated transliterate number) :
    Vocabulary.IsTabless journal.session.vocabulary ↔
      ∀ event ∈ journal.kept, ∀ word ∈ event.operation.words, '\t' ∉ word.toList := by
  have preamble : Vocabulary.IsTabless preambleVocabulary := by
    intro block member
    simp only [preambleVocabulary, List.mem_cons, List.not_mem_nil, or_false] at member
    obtain rfl | rfl | rfl := member <;> exact List.forall_mem_singleton.2 (by decide)
  have events : Vocabulary.IsTabless (journal.kept.flatMap Event.vocabulary) ↔
      ∀ event ∈ journal.kept, Vocabulary.IsTabless event.vocabulary := by
    simp only [Vocabulary.IsTabless, List.mem_flatMap]
    exact ⟨fun all event recent block inside => all block ⟨event, recent, inside⟩,
      fun all block ⟨event, recent, inside⟩ => all event recent block inside⟩
  rw [session, Vocabulary.IsTabless, List.forall_mem_append]
  refine (and_iff_right preamble).trans (events.trans ?_)
  exact forall₂_congr fun event recent => (generated.lists event recent).isTabless_iff

end Journal

/-- After any operations with kana, the vocabulary is that of the preamble and, for each operation since the last reset,
the entries of its literals or values in their order. Its file is read as this exactly if no value of a symbol has a
tab. -/
theorem read_vocabulary_run [Limits] (operations : List Operation) :
    ∃ journal : Journal,
      journal.map Event.operation = Session.succeeded .kana {} operations ∧
      journal.IsGenerated .kana 0 ∧
      (∀ event ∈ journal.kept, event.Lists .kana) ∧
      (Vocabulary.read (Session.run .kana {} operations).vocabulary.text =
          some (preambleVocabulary ++ journal.kept.flatMap Event.vocabulary) ↔
        ∀ event ∈ journal.kept, ∀ word ∈ event.operation.words, '\t' ∉ word.toList) := by
  obtain ⟨journal, done, generated, ran⟩ := Journal.exists_journal .kana operations
  rw [ran]
  refine ⟨journal, done, generated, generated.lists, ?_⟩
  exact (Vocabulary.read_text_iff generated.isLegible_sections).trans generated.isTabless_iff

section
open scoped Workstation

/-- A value with a tab is accepted, and its entry is read as that of a shorter word. -/
theorem read_vocabulary_tabbed_value :
    let tabbed := Operation.addSymbol (.text "X") (.list [.text "ア\tイ"])
    (Session.run .kana {} [tabbed]).vocabulary = preambleVocabulary ++ [⟨"X", [⟨"ア\tイ", "a i"⟩]⟩] ∧
      Vocabulary.read (Session.run .kana {} [tabbed]).vocabulary.text =
        some (preambleVocabulary ++ [⟨"X", [⟨"ア", "イ\ta i"⟩]⟩]) := by
  decide +kernel

end

end Utterance
