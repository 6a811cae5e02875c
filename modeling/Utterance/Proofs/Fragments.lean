import Utterance.Proofs.Journal

/-!
# What operations append

What an operation appends to a session follows from the operation and the number of its first item: a pattern appends
the productions and the sections of its items, a symbol one section with its values in their order.
-/

namespace Utterance
set_option autoImplicit false

/-- The entry of a word. -/
def Transliterator.entryOf (transliterate : Transliterator) (word : String) : Entry :=
  ⟨word, transliterate.phones word⟩

/-- The texts of the values that were given, if they are a collection and all of them can be written. -/
def SymbolValues.texts? (values : SymbolValues) : Option (List String) :=
  match values.members with
  | .ok members => members.mapM Scalar.text?
  | .error _ => none

variable {transliterate : Transliterator}

namespace Session

theorem entry_eq_ok_iff {value : Scalar} {entry : Entry} :
    Session.entry transliterate value = .ok entry ↔
      ∃ word, value.text? = some word ∧ (∃ phones, transliterate word = .ok phones) ∧ entry = transliterate.entryOf word := by
  unfold Session.entry Transliterator.entryOf Transliterator.phones
  cases value.text? with
  | none => simp
  | some word => cases spoken : transliterate word <;> simp [spoken, eq_comm]

theorem entries_eq_ok_iff {values : List Scalar} {list : List Entry} :
    entries transliterate values = .ok list ↔ ∃ words, values.mapM Scalar.text? = some words ∧
      (∀ word ∈ words, ∃ phones, transliterate word = .ok phones) ∧ list = words.map transliterate.entryOf := by
  induction values generalizing list with
  | nil => simp [entries, eq_comm]
  | cons value rest ih =>
    simp only [entries, bind_eq_ok_iff, ih, entry_eq_ok_iff, List.mapM_cons, Option.bind_eq_bind, Option.bind_eq_some_iff,
      Option.pure_def, Option.some.injEq]
    constructor
    · rintro ⟨_, ⟨word, written, spoken, rfl⟩, _, ⟨words, all, others, rfl⟩, same⟩
      cases same
      exact ⟨_, ⟨word, written, words, all, rfl⟩, List.forall_mem_cons.2 ⟨spoken, others⟩, rfl⟩
    · rintro ⟨_, ⟨word, written, words, all, rfl⟩, spoken, rfl⟩
      obtain ⟨first, others⟩ := List.forall_mem_cons.1 spoken
      exact ⟨_, ⟨word, written, first, rfl⟩, _, ⟨words, all, others, rfl⟩, rfl⟩

theorem texts?_eq_some_iff {values : SymbolValues} {words : List String} :
    values.texts? = some words ↔ ∃ members, values.members = .ok members ∧ members.mapM Scalar.text? = some words := by
  unfold SymbolValues.texts?
  cases values.members <;> simp

/-- A symbol has a section if its name is a name, its values are a collection, and all of them can be written and have
phones. -/
theorem symbolSection_eq_ok_iff {name : Scalar} {values : SymbolValues} {block : Section} :
    symbolSection transliterate name values = .ok block ↔
      ∃ text words, name = .text text ∧ isSymbolName text = true ∧ values.texts? = some words ∧
        (∀ word ∈ words, ∃ phones, transliterate word = .ok phones) ∧
        block = ⟨text, words.map transliterate.entryOf⟩ := by
  unfold symbolSection
  split
  · rename_i text
    split
    · rename_i named
      simp only [bind_eq_ok_iff, mapError_eq_ok_iff, entries_eq_ok_iff, texts?_eq_some_iff]
      constructor
      · rintro ⟨members, collected, _, ⟨words, written, all, rfl⟩, same⟩
        cases same
        exact ⟨text, words, rfl, named, ⟨members, collected, written⟩, all, rfl⟩
      · rintro ⟨_, words, same, _, ⟨members, collected, written⟩, all, rfl⟩
        cases same
        exact ⟨members, collected, _, ⟨words, written, all, rfl⟩, rfl⟩
    · rename_i unnamed
      refine iff_of_false (by simp) ?_
      rintro ⟨_, _, same, named, _⟩
      cases same
      exact unnamed named
  · rename_i other
    refine iff_of_false (by split <;> simp) ?_
    rintro ⟨text, _, same, _⟩
    exact other text same

/-- The name of a symbol is accepted for its spelling alone. -/
theorem exists_addSymbol_iff {session : Session} {name : String} {values : SymbolValues} :
    (∃ after, session.addSymbol transliterate (.text name) values = .ok after) ↔
      isSymbolName name = true ∧ ∃ words, values.texts? = some words ∧
        ∀ word ∈ words, ∃ phones, transliterate word = .ok phones := by
  simp only [addSymbol_eq, bind_eq_ok_iff, symbolSection_eq_ok_iff]
  constructor
  · rintro ⟨_, _, ⟨_, words, same, isName, collected, spoken, _⟩, _⟩
    cases same
    exact ⟨isName, words, collected, spoken⟩
  · rintro ⟨isName, words, collected, spoken⟩
    exact ⟨_, _, ⟨name, words, rfl, isName, collected, spoken, rfl⟩, rfl⟩

end Session

namespace Operation

variable {number : Int} {grammar : Grammar} {vocabulary : Vocabulary}

/-- What a pattern appends. -/
theorem fragment_add_eq_ok [Limits] {source : Pattern.Source}
    (appended : (add source).fragment transliterate number = .ok (grammar, vocabulary)) :
    ∃ table, Pattern.parse source = .ok table ∧ table.chain.Pronounceable transliterate ∧
      grammar = table.chain.sentenceProductions number ∧
      vocabulary = table.chain.sections transliterate Name.wordScope number := by
  simp only [fragment, bind_eq_ok_iff, Session.parse, mapError_eq_ok_iff] at appended
  obtain ⟨table, accepted, lowered, lowers, same⟩ := appended
  obtain ⟨_, _, pronounceable, rfl⟩ := NodeTable.lower_eq_ok_iff.1 lowers
  cases same
  exact ⟨table, accepted, pronounceable, rfl, rfl⟩

/-- What a symbol appends. -/
theorem fragment_addSymbol_eq_ok [Limits] {name : Scalar} {values : SymbolValues}
    (appended : (addSymbol name values).fragment transliterate number = .ok (grammar, vocabulary)) :
    grammar = [] ∧ ∃ text words, name = .text text ∧ isSymbolName text = true ∧ values.texts? = some words ∧
      (∀ word ∈ words, ∃ phones, transliterate word = .ok phones) ∧
      vocabulary = [⟨text, words.map transliterate.entryOf⟩] := by
  obtain ⟨block, made, same⟩ := map_eq_ok_iff.1 appended
  cases same
  obtain ⟨text, words, named, isName, collected, all, rfl⟩ := Session.symbolSection_eq_ok_iff.1 made
  exact ⟨rfl, text, words, named, isName, collected, all, rfl⟩

end Operation

namespace Journal

variable {journal : Journal} {event : Event}

/-- The journal of a new session to which operations are done one after the other. -/
theorem exists_journal [Limits] (transliterate : Transliterator) (operations : List Operation) :
    ∃ journal : Journal, journal.map Event.operation = Session.succeeded transliterate {} operations ∧
      journal.IsGenerated transliterate 0 ∧ Session.run transliterate {} operations = journal.session := by
  have new : Journal.session [] = {} := by simp [Journal.session, Journal.kept, Journal.items]
  have empty : Journal.IsGenerated transliterate 0 [] := trivial
  have run := exists_journal_run empty operations
  rwa [new] at run

theorem kept_subset (journal : Journal) : journal.kept ⊆ journal :=
  (List.rtakeWhile_suffix _ journal).subset

/-- Every event appended what its operation generates from one of the numbers of the journal on. -/
theorem IsGenerated.exists_fragment [Limits] {number : Int} (generated : journal.IsGenerated transliterate number)
    (member : event ∈ journal) :
    ∃ first, number ≤ first ∧ first + event.operation.items ≤ number + journal.items ∧
      event.operation.fragment transliterate first = .ok (event.grammar, event.vocabulary) := by
  induction journal generalizing number with
  | nil => exact absurd member List.not_mem_nil
  | cons other rest ih =>
    have total : items (other :: rest) = other.operation.items + items rest := rfl
    obtain rfl | later := List.mem_cons.1 member
    · exact ⟨number, by omega, by omega, generated.1⟩
    · obtain ⟨first, least, most, appended⟩ := ih generated.2 later
      exact ⟨first, by omega, by omega, appended⟩

end Journal

end Utterance
