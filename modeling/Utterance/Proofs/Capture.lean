import Utterance.Proofs.VocabularyFile

/-!
# Names of symbols and names that are given

Symbols and items have their names in one file, and a symbol may have any name that is spelled like one. Whether a name
is one that can be given to an item is told from its pieces between underscores (`Name.isGiven`). A name that is not is
never given, so it means the values of the symbol and nothing else (`not_given_run`); one that is can be met by an item
that is added later.
-/

namespace Utterance
set_option autoImplicit false

/-! ## Names that are given -/

namespace Name

/-- The pieces of a name between underscores. -/
def pieces (name : String) : List (List Char) :=
  name.toList.splitOn '_'

/-- The number that a piece states, if it is written as numbers are. -/
def number? (piece : List Char) : Option Nat :=
  let number := Nat.ofDigitChars 10 piece 0
  if Nat.toDigits 10 number = piece then some number else none

/-- Whether the piece is the number of one of the first `count` items. -/
def isBelow (count : Int) (piece : List Char) : Bool :=
  (number? piece).any fun (number : Nat) => decide ((number : Int) < count)

/-- How the name of an item goes on, given whether it just said that the item is repeated: with the number of an item
inside, or with what says so. -/
def goOn (looped : Bool) (piece : List Char) : Option Bool :=
  if (number? piece).isSome then some false
  else if !looped && piece = "LOOP".toList then some true
  else none

/-- Whether the name ends with what says that the item is repeated, if it is the name of an item, and the top-level
items have the numbers below `count`. -/
def looped? (count : Int) (name : String) : Option Bool :=
  match pieces name with
  | scope :: number :: inner => if scope = wordScope.toList && isBelow count number then inner.foldlM goOn false else none
  | _ => none

/-- Whether the name is that of a root. -/
def isRoot (count : Int) (name : String) : Bool :=
  match pieces name with
  | [scope, number] => scope = rootScope.toList && isBelow count number
  | _ => false

/-- Whether the name is given by hand, or may be given to one of the first `count` items or to an item inside of it. -/
def isGiven (count : Int) (name : String) : Bool :=
  reserved.contains name || isRoot count name || (looped? count name).isSome

variable {count : Int} {name : String}

theorem number?_toDigits (number : Nat) : number? (Nat.toDigits 10 number) = some number := by
  simp only [number?, Nat.ofDigitChars_ten_toDigits, if_pos]

theorem toList_toString {number : Int} (natural : 0 ≤ number) :
    (toString number).toList = Nat.toDigits 10 number.toNat := by
  rw [Int.toString_eq_repr, Int.repr_eq_if, if_pos natural, Nat.repr_eq_ofList_toDigits, String.toList_ofList]

theorem pieces_append {more : String} (plain : '_' ∉ more.toList) :
    pieces (name ++ "_" ++ more) = pieces name ++ [more.toList] := by
  have single : (['_'].intercalate [more.toList]).splitOn '_' = [more.toList] :=
    List.splitOn_intercalate '_' (by simpa using plain) (by simp)
  rw [List.intercalate_singleton] at single
  have underscore : "_".toList = ['_'] := rfl
  rw [pieces, String.toList_append, String.toList_append, underscore, List.append_assoc, List.singleton_append,
    List.splitOn_append_cons_self, single, pieces]

theorem pieces_child (number : Int) : pieces (child name number) = pieces name ++ [(toString number).toList] :=
  pieces_append (underscore_notMem_number number)

theorem pieces_loop : pieces (loop name) = pieces name ++ ["LOOP".toList] := by
  have joined : loop name = name ++ "_" ++ "LOOP" := by
    rw [loop, String.append_assoc]
    rfl
  rw [joined, pieces_append (by decide)]

theorem isBelow_toString {number : Int} (natural : 0 ≤ number) (below : number < count) :
    isBelow count (toString number).toList = true := by
  have value : (number.toNat : Int) < count := by omega
  rw [isBelow, toList_toString natural, number?_toDigits, Option.any_some]
  exact decide_eq_true value

theorem isRoot_child {number : Int} (natural : 0 ≤ number) (below : number < count) :
    isRoot count (child rootScope number) = true := by
  have root : pieces rootScope = [rootScope.toList] := by decide
  simp only [isRoot, pieces_child, root, List.singleton_append, isBelow_toString natural below, decide_true, Bool.and_self]

theorem looped?_child_word {number : Int} (natural : 0 ≤ number) (below : number < count) :
    looped? count (child wordScope number) = some false := by
  have word : pieces wordScope = [wordScope.toList] := by decide
  simp only [looped?, pieces_child, word, List.singleton_append, isBelow_toString natural below, decide_true,
    Bool.and_self, if_true]
  rfl

/-- The name of an item goes on piece by piece. -/
theorem looped?_append {longer : String} {piece : List Char} {looped : Bool} (item : looped? count name = some looped)
    (same : pieces longer = pieces name ++ [piece]) : looped? count longer = goOn looped piece := by
  unfold looped? at item ⊢
  rw [same]
  split at item
  · rename_i scope number inner split
    rw [split]
    split at item
    · rename_i given
      simp only [List.cons_append, given, if_true]
      rw [List.foldlM_append, item]
      simp
    · cases item
  · cases item

theorem looped?_child {number : Int} {looped : Bool} (item : looped? count name = some looped) (natural : 0 ≤ number) :
    looped? count (child name number) = some false := by
  rw [looped?_append item (pieces_child number), goOn, toList_toString natural, number?_toDigits]
  rfl

theorem looped?_loop (item : looped? count name = some false) : looped? count (loop name) = some true := by
  rw [looped?_append item pieces_loop]
  decide

theorem exists_looped?_bodyName (item : looped? count name = some false) (repetition : Repetition) :
    ∃ looped, looped? count (repetition.bodyName name) = some looped := by
  cases repetition with
  | once => exact ⟨false, item⟩
  | _ => exact ⟨true, looped?_loop item⟩

end Name

/-! ## What is given -/

namespace Chain

variable {chain : Chain} {path : List Nat} {position : Nat} {scope : String} {number count : Int}

theorem exists_looped?_of_mem_identifiers {identifier : Identifier}
    (items : ∀ n, number ≤ n → n < number + chain.count → Name.looped? count (Name.child scope n) = some false)
    (member : identifier ∈ chain.identifiers path position scope number) :
    ∃ looped, Name.looped? count identifier.name = some looped := by
  induction chain generalizing path position scope number with
  | nil => exact absurd member List.not_mem_nil
  | broken index => exact absurd member List.not_mem_nil
  | leaf content repetition closes next ih =>
    rw [Chain.count] at items
    have item := items number (by omega) (by omega)
    simp only [mem_identifiers_leaf, Repetition.mem_identifiers] at member
    obtain (⟨_, rfl⟩ | rfl) | later := member
    · exact ⟨false, item⟩
    · exact Name.exists_looped?_bodyName item repetition
    · exact ih (fun n least most => items n (by omega) (by omega)) later
  | group inner repetition closes next ihInner ih =>
    rw [Chain.count] at items
    have item := items number (by omega) (by omega)
    simp only [mem_identifiers_group, Repetition.mem_identifiers] at member
    obtain (⟨_, rfl⟩ | rfl) | inside | later := member
    · exact ⟨false, item⟩
    · exact Name.exists_looped?_bodyName item repetition
    · obtain ⟨_, body⟩ := Name.exists_looped?_bodyName item repetition
      exact ihInner (fun n natural _ => Name.looped?_child body natural) inside
    · exact ih (fun n least most => items n (by omega) (by omega)) later

theorem isGiven_of_mem_sentenceIdentifiers {identifier : Identifier} (natural : 0 ≤ number)
    (below : number + chain.count ≤ count) (member : identifier ∈ chain.sentenceIdentifiers number) :
    Name.isGiven count identifier.name = true := by
  obtain ⟨place, inside, rfl⟩ | word := mem_sentenceIdentifiers.1 member
  · have root : Name.isRoot count (rootIdentifier number place).name = true :=
      Name.isRoot_child (by omega) (by omega)
    rw [Name.isGiven, root, Bool.or_true, Bool.true_or]
  · have items : ∀ n, number ≤ n → n < number + chain.count →
        Name.looped? count (Name.child Name.wordScope n) = some false :=
      fun n least most => Name.looped?_child_word (by omega) (by omega)
    obtain ⟨_, item⟩ := exists_looped?_of_mem_identifiers items word
    rw [Name.isGiven, item, Option.isSome_some, Bool.or_true]

end Chain

/-- The names of productions and sections that an event brought. -/
def Event.names (event : Event) : List String :=
  event.grammar.map Production.name ++ event.vocabulary.map Section.name

variable {transliterate : Transliterator}

/-- A pattern brings only names that are given. -/
theorem Operation.isGiven_of_fragment [Limits] {source : Pattern.Source} {number count : Int} {grammar : Grammar}
    {vocabulary : Vocabulary} (natural : 0 ≤ number) (below : number + (add source).items ≤ count)
    (appended : (add source).fragment transliterate number = .ok (grammar, vocabulary)) :
    ∀ name ∈ grammar.map Production.name ++ vocabulary.map Section.name, Name.isGiven count name = true := by
  obtain ⟨table, accepted, _, rfl, rfl⟩ := fragment_add_eq_ok appended
  have items : (add source).items = table.chain.count := by rw [Operation.items, accepted]
  rw [items] at below
  rw [List.forall_mem_append, Chain.map_name_sentenceSections, List.forall_mem_map, List.forall_mem_map]
  constructor
  · intro production member
    obtain start | ⟨identifier, found, _, same⟩ := Chain.exists_identifier_of_mem_sentenceProductions member
    · rw [start]
      simp [Name.isGiven, Name.reserved]
    · exact same ▸ Chain.isGiven_of_mem_sentenceIdentifiers natural below found
  · intro identifier heads
    exact Chain.isGiven_of_mem_sentenceIdentifiers natural below (List.mem_filter.1 heads).1

/-! ## Names that are free -/

theorem Name.notMem_reserved {count : Int} {name : String} (free : isGiven count name = false) : name ∉ reserved := by
  intro listed
  rw [isGiven, List.contains_iff_mem.2 listed] at free
  cases free

namespace Journal

variable {journal : Journal} {event : Event} {name : String}

theorem IsGenerated.notMem_names [Limits] (generated : journal.IsGenerated transliterate 0)
    (free : Name.isGiven journal.items name = false) {source : Pattern.Source} (member : event ∈ journal)
    (added : event.operation = .add source) : name ∉ event.names := by
  obtain ⟨first, natural, below, appended⟩ := generated.exists_fragment member
  rw [added] at below appended
  intro brought
  rw [Operation.isGiven_of_fragment natural (by omega) appended name brought] at free
  cases free

/-- Only patterns bring productions, and what else brings a section is a symbol of its name. -/
theorem IsGenerated.add_or_addSymbol [Limits] {number : Int} (generated : journal.IsGenerated transliterate number)
    (member : event ∈ journal) : (∃ source, event.operation = .add source) ∨
      event.grammar = [] ∧ ∀ block ∈ event.vocabulary, ∃ values,
        event.operation = .addSymbol (.text block.name) values ∧ event.vocabulary = [block] := by
  obtain ⟨_, _, _, made⟩ := generated.exists_fragment member
  obtain ⟨operation, grammar, vocabulary⟩ := event
  cases operation with
  | add source => exact .inl ⟨source, rfl⟩
  | addSymbol symbol values =>
    obtain ⟨empty, text, words, rfl, _, _, _, same⟩ := Operation.fragment_addSymbol_eq_ok made
    refine .inr ⟨empty, fun block inside => ?_⟩
    rw [same, List.mem_singleton] at inside
    exact ⟨values, by rw [inside], by rw [same, inside]⟩
  | reset =>
    cases made
    exact .inr ⟨rfl, fun _ inside => absurd inside List.not_mem_nil⟩

/-- A free name has no production. -/
theorem IsGenerated.notMem_grammar [Limits] (generated : journal.IsGenerated transliterate 0)
    (free : Name.isGiven journal.items name = false) : name ∉ journal.session.grammar.map Production.name := by
  intro listed
  obtain ⟨production, member, rfl⟩ := List.mem_map.1 listed
  obtain preamble | appended := List.mem_append.1 member
  · rw [List.mem_singleton.1 preamble] at free
    exact Name.notMem_reserved free (List.mem_cons_self ..)
  · obtain ⟨event, recent, inside⟩ := List.mem_flatMap.1 appended
    have known := journal.kept_subset recent
    obtain ⟨source, added⟩ | ⟨empty, _⟩ := generated.add_or_addSymbol known
    · exact generated.notMem_names free known added (List.mem_append_left _ (List.mem_map_of_mem inside))
    · rw [empty] at inside
      exact List.not_mem_nil inside

/-- A section with a free name was added for a symbol of that name. -/
theorem IsGenerated.exists_addSymbol [Limits] (generated : journal.IsGenerated transliterate 0) {block : Section}
    (free : Name.isGiven journal.items block.name = false) (listed : block ∈ journal.session.vocabulary) :
    ∃ event ∈ journal.kept, ∃ values, event.operation = .addSymbol (.text block.name) values ∧
      event.vocabulary = [block] := by
  obtain preamble | appended := List.mem_append.1 listed
  · have fixed : block.name ∈ Name.fixed := List.mem_map_of_mem (f := Section.name) preamble
    exact absurd (List.mem_cons_of_mem _ fixed) (Name.notMem_reserved free)
  · obtain ⟨event, recent, inside⟩ := List.mem_flatMap.1 appended
    have known := journal.kept_subset recent
    obtain ⟨source, added⟩ | ⟨_, symbols⟩ := generated.add_or_addSymbol known
    · have brought : block.name ∈ event.names := List.mem_append_right _ (List.mem_map_of_mem inside)
      exact absurd brought (generated.notMem_names free known added)
    · exact ⟨event, recent, symbols block inside⟩

end Journal

/-- A symbol may have any name that is spelled like one. After any operations, a name that cannot have been given to an
item is not reserved, no pattern brought it, it has no production, and every section with this name was added for a
symbol. -/
theorem not_given_run [Limits] (transliterate : Transliterator) (operations : List Operation) :
    ∃ journal : Journal,
      journal.map Event.operation = Session.succeeded transliterate {} operations ∧
      journal.IsGenerated transliterate 0 ∧
      (∀ name, Name.isGiven (Session.run transliterate {} operations).nextNumber name = false →
        name ∉ Name.reserved ∧
        (∀ event ∈ journal, ∀ source, event.operation = .add source → name ∉ event.names) ∧
        name ∉ (Session.run transliterate {} operations).grammar.map Production.name ∧
        ∀ block ∈ (Session.run transliterate {} operations).vocabulary, block.name = name →
          ∃ event ∈ journal.kept, ∃ values, event.operation = .addSymbol (.text name) values ∧
            event.vocabulary = [block]) ∧
      ∀ name values,
        (∃ after, (Session.run transliterate {} operations).addSymbol transliterate (.text name) values = .ok after) ↔
          isSymbolName name = true ∧ ∃ words, values.texts? = some words ∧
            ∀ word ∈ words, ∃ phones, transliterate word = .ok phones := by
  obtain ⟨journal, done, generated, ran⟩ := Journal.exists_journal transliterate operations
  refine ⟨journal, done, generated, ?_, fun _ _ => Session.exists_addSymbol_iff⟩
  rw [ran]
  intro name free
  refine ⟨Name.notMem_reserved free, fun event member source added => ?_, generated.notMem_grammar free, ?_⟩
  · exact generated.notMem_names free member added
  · rintro block listed rfl
    exact generated.exists_addSymbol free listed

section
open scoped Workstation

/-- A symbol with a number that no item has is not met by the items. -/
theorem not_given_run_ahead :
    let operations := [Operation.addSymbol (.text "WORD_7") (.list [.text "a"]), .add ⟨"'b' (<WORD_7>)+", "example", 1⟩]
    Name.isGiven (Session.run Transliterator.verbatim {} operations).nextNumber "WORD_7" = false ∧
      "WORD_7" ∉ (Session.run Transliterator.verbatim {} operations).grammar.map Production.name := by
  intro operations
  have free : Name.isGiven (Session.run Transliterator.verbatim {} operations).nextNumber "WORD_7" = false := by
    decide +kernel
  obtain ⟨_, _, _, apart, _⟩ := not_given_run Transliterator.verbatim operations
  exact ⟨free, (apart "WORD_7" free).2.2.1⟩

/-- A symbol with the name of an item is accepted, before the item and after it, and the name then heads two sections;
and a pattern may refer to the start of the grammar. -/
theorem sections_of_given_name :
    let symbol := Operation.addSymbol (.text "WORD_0") (.list [.text "ア"])
    let pattern := Operation.add ⟨"'イ'", "example", 1⟩
    let start := Operation.add ⟨"<S>", "example", 1⟩
    (Session.run .kana {} [symbol, pattern]).vocabulary =
        preambleVocabulary ++ [⟨"WORD_0", [⟨"ア", "a"⟩]⟩, ⟨"WORD_0", [⟨"イ", "i"⟩]⟩] ∧
      (Session.run .kana {} [pattern, symbol]).vocabulary =
        preambleVocabulary ++ [⟨"WORD_0", [⟨"イ", "i"⟩]⟩, ⟨"WORD_0", [⟨"ア", "a"⟩]⟩] ∧
      ⟨"WORD_0", [Name.start]⟩ ∈ (Session.run .kana {} [start]).grammar := by
  decide +kernel

end

end Utterance
