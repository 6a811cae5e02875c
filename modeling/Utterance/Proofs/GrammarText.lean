import Utterance.Proofs.Identifiers
import Utterance.Proofs.Scanning

/-!
# Reading a grammar back

A grammar file can be read: each line is a name, a tab, a colon and a space, and then names with spaces between them.
Reading what was written gives the grammar again, if the names are made of the letters of names (`ofText_text`), and
those of a sentence are.
-/

namespace Utterance
set_option autoImplicit false
open Pattern

/-- The production that a line of a grammar file states. -/
def Production.ofLine (line : List Char) : Production :=
  let name := line.takeWhile (· ≠ '\t')
  -- a tab, a colon and a space stand between the name and the symbols
  let symbols := (line.drop (name.length + 3)).splitOn ' '
  ⟨String.ofList name, (symbols.filter (· ≠ [])).map String.ofList⟩

/-- The productions that a grammar file states. -/
def Grammar.ofText (text : String) : Grammar :=
  ((text.toList.splitOn '\n').filter (· ≠ [])).map Production.ofLine

/-- All names of the production are made of the letters of names. -/
def Production.IsPlain (production : Production) : Prop :=
  IsName production.name.toList ∧ ∀ symbol ∈ production.symbols, IsName symbol.toList

theorem notMem_of_isName {name : List Char} {c : Char} (isName : IsName name) (other : isNameChar c = false) :
    c ∉ name := by
  intro member
  rw [isName.2 c member] at other
  cases other

/-- A production as characters, without the line feed after it. -/
def Production.chars (production : Production) : List Char :=
  production.name.toList ++ ['\t', ':', ' '] ++ [' '].intercalate (production.symbols.map String.toList)

theorem Production.toList_line (production : Production) : production.line.toList = production.chars ++ ['\n'] := by
  simp [Production.line, Production.chars, String.toList_intercalate]

theorem Production.linefeed_notMem_chars {production : Production} (plain : production.IsPlain) :
    '\n' ∉ production.chars := by
  simp only [chars, List.mem_append, not_or]
  refine ⟨⟨notMem_of_isName plain.1 (by decide), by decide⟩, fun member => ?_⟩
  obtain between | ⟨_, listed, inside⟩ := mem_intercalate member
  · exact absurd between (by decide)
  · obtain ⟨symbol, written, rfl⟩ := List.mem_map.1 listed
    exact notMem_of_isName (plain.2 symbol written) (by decide) inside

/-- Names with spaces between them can be cut apart. -/
theorem cut_intercalate {names : List String} (plain : ∀ name ∈ names, IsName name.toList) :
    ((([' '].intercalate (names.map String.toList)).splitOn ' ').filter (· ≠ [])).map String.ofList = names := by
  cases names with
  | nil => rfl
  | cons name rest =>
    rw [List.splitOn_intercalate ' ' ?_ (by simp), List.filter_eq_self.2 ?_, List.map_map]
    · simp [Function.comp_def]
    · rw [List.forall_mem_map]
      exact fun other listed => by simpa using (plain other listed).1
    · rw [List.forall_mem_map]
      exact fun other listed => notMem_of_isName (plain other listed) (by decide)

theorem Production.ofLine_chars {production : Production} (plain : production.IsPlain) :
    Production.ofLine production.chars = production := by
  have name : production.chars.takeWhile (· ≠ '\t') = production.name.toList := by
    rw [chars, List.append_assoc, takeWhile_append_stop]
    · intro c member
      simpa using fun same : c = '\t' => notMem_of_isName plain.1 (by decide) (same ▸ member)
    · simp
  have rest : production.chars.drop (production.name.toList.length + 3) =
      [' '].intercalate (production.symbols.map String.toList) := by
    rw [chars, List.drop_append_of_le_length (by simp), List.drop_eq_nil_of_le (by simp), List.nil_append]
  simp only [ofLine, name, rest, cut_intercalate plain.2, String.ofList_toList]

/-- A grammar whose names are names can be read from its text. -/
theorem Grammar.ofText_text {grammar : Grammar} (plain : ∀ production ∈ grammar, production.IsPlain) :
    Grammar.ofText grammar.text = grammar := by
  rw [Grammar.ofText, Grammar.text, String.toList_join, List.flatMap_map]
  induction grammar with
  | nil => rfl
  | cons production rest ih =>
    rw [List.forall_mem_cons] at plain
    rw [List.flatMap_cons, Production.toList_line, List.append_assoc, List.singleton_append,
      List.splitOn_append_cons_self_of_not_mem (Production.linefeed_notMem_chars plain.1)]
    have nonempty : production.chars ≠ [] := by simp [Production.chars]
    rw [List.filter_cons_of_pos (by simpa using nonempty), List.map_cons, ih plain.2, Production.ofLine_chars plain.1]

/-! ## The names of a sentence -/

theorem isNameChar_of_mem_number {number : Int} {c : Char} (member : c ∈ (toString number).toList) :
    isNameChar c = true := by
  obtain rfl | digit := Name.isDigit_of_mem_number member
  · decide
  · simp only [Char.isDigit, Bool.and_eq_true, decide_eq_true_eq] at digit
    simp only [isNameChar, Pattern.isDigit, Bool.or_eq_true, Bool.and_eq_true, decide_eq_true_eq]
    exact .inl (.inl (.inr digit))

theorem isName_child {scope : String} (isName : IsName scope.toList) (number : Int) :
    IsName (Name.child scope number).toList := by
  simp only [Name.child, String.toList_append]
  refine ⟨by simp, ?_⟩
  simp only [List.forall_mem_append]
  have separator : IsName "_".toList := by decide
  exact ⟨⟨isName.2, separator.2⟩, fun c member => isNameChar_of_mem_number member⟩

theorem isName_bodyName {name : String} (isName : IsName name.toList) (repetition : Repetition) :
    IsName (repetition.bodyName name).toList := by
  have loop : IsName (Name.loop name).toList := by
    simp only [Name.loop, String.toList_append]
    refine ⟨by simp, ?_⟩
    simp only [List.forall_mem_append]
    have ending : IsName "_LOOP".toList := by decide
    exact ⟨isName.2, ending.2⟩
  cases repetition with
  | once => exact isName
  | _ => exact loop

namespace Chain

variable {chain : Chain} {path : List Nat} {position : Nat} {scope : String} {number : Int}

theorem isName_of_mem_identifiers {identifier : Identifier} (isName : IsName scope.toList)
    (member : identifier ∈ chain.identifiers path position scope number) : IsName identifier.name.toList := by
  induction chain generalizing path position scope number with
  | nil => exact absurd member List.not_mem_nil
  | broken index => exact absurd member List.not_mem_nil
  | leaf content repetition closes next ih =>
    simp only [mem_identifiers_leaf, Repetition.mem_identifiers] at member
    obtain (⟨_, rfl⟩ | rfl) | member := member
    · exact isName_child isName number
    · exact isName_bodyName (isName_child isName number) repetition
    · exact ih isName member
  | group inner repetition closes next ihInner ih =>
    simp only [mem_identifiers_group, Repetition.mem_identifiers] at member
    obtain (⟨_, rfl⟩ | rfl) | member | member := member
    · exact isName_child isName number
    · exact isName_bodyName (isName_child isName number) repetition
    · exact ihInner (isName_bodyName (isName_child isName number) repetition) member
    · exact ih isName member

theorem isName_of_mem_sentenceIdentifiers {identifier : Identifier}
    (member : identifier ∈ chain.sentenceIdentifiers number) : IsName identifier.name.toList := by
  obtain ⟨position, _, rfl⟩ | member := mem_sentenceIdentifiers.1 member
  · exact isName_child (by decide) _
  · exact isName_of_mem_identifiers (by decide) member

/-- The productions of a sentence consist of names, if its symbols are names. -/
theorem isPlain_of_mem_sentenceProductions (isName : ∀ symbol ∈ chain.symbols, IsName symbol.toList)
    {production : Production} (member : production ∈ chain.sentenceProductions number) : production.IsPlain := by
  refine ⟨?_, fun symbol inside => ?_⟩
  · obtain start | ⟨identifier, found, _, same⟩ := exists_identifier_of_mem_sentenceProductions member
    · rw [start]
      decide
    · exact same ▸ isName_of_mem_sentenceIdentifiers found
  · obtain fixed | named | referenced := mem_symbols_of_mem_sentenceProductions member inside
    · simp only [Name.fixed, List.mem_cons, List.not_mem_nil, or_false] at fixed
      obtain rfl | rfl | rfl := fixed <;> decide
    · obtain ⟨identifier, found, rfl⟩ := List.mem_map.1 named
      exact isName_of_mem_sentenceIdentifiers found
    · exact isName symbol referenced

/-- The grammar of a sentence can be read from its text, if its symbols are names. -/
theorem ofText_text_sentenceProductions (isName : ∀ symbol ∈ chain.symbols, IsName symbol.toList) :
    Grammar.ofText (Grammar.text (chain.sentenceProductions number)) = chain.sentenceProductions number :=
  Grammar.ofText_text fun _ member => isPlain_of_mem_sentenceProductions isName member

end Chain

end Utterance
