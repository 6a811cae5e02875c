import Utterance.Proofs.Layout
import Utterance.Proofs.Marking
import Utterance.Proofs.Nesting

/-!
# Parsing accepts the spellings of expressions

The parser accepts a text exactly if some expression is spelled by it that is no deeper than the parser can walk. The
expression is then the only one, and the table denotes it: items, contents, nesting, alternatives and repeats. A text
that spells a deeper one makes the walk fail (`parse_spelling`).
-/

namespace Utterance.Pattern
set_option autoImplicit false

/-- A numeral within the limit of digits, or another token. -/
def Token.fitsLimit : Token → Bool
  | .numeral digits => digits.length ≤ digitLimit
  | _ => true

/-- A mark that is not refused, wherever it is. -/
def Mark.IsSound : Mark → Prop
  | .literal spelling _ => literalText spelling ≠ []
  | .exactly count => count.digits.length ≤ digitLimit
  | .range least most =>
    least.digits.length ≤ digitLimit ∧ most.digits.length ≤ digitLimit ∧
      digitsValue least.digits ≤ digitsValue most.digits
  | _ => True

theorem Numeral.value_eq_ok_iff {numeral : Numeral} {value : Nat} :
    numeral.value = .ok value ↔ numeral.digits.length ≤ digitLimit ∧ value = digitsValue numeral.digits := by
  unfold Numeral.value
  split <;> simp_all [eq_comm]

theorem Mark.step_eq_ok_iff [Limits] {source : Source} {depth : Nat} {mark : Mark} {step : BuildStep} :
    mark.step source depth = .ok step ↔ mark.IsSound ∧ mark.HasRoom depth ∧ step = mark.built source := by
  cases mark with
  | openGroup column =>
    simp only [Mark.step, Mark.IsSound, Mark.HasRoom, Mark.built, true_and]
    by_cases room : depth < Limits.nesting
    · rw [if_pos room, Except.ok.injEq]
      exact ⟨fun same => ⟨room, same.symm⟩, fun all => all.2.symm⟩
    · rw [if_neg room]
      exact iff_of_false (by simp) fun all => room all.1
  | literal spelling column =>
    simp only [Mark.step, Mark.IsSound, Mark.HasRoom, Mark.built, List.isEmpty_iff, true_and]
    by_cases empty : literalText spelling = []
    · simp [empty, Source.reject]
    · rw [if_neg empty, Except.ok.injEq]
      exact ⟨fun same => ⟨empty, same.symm⟩, fun sound => sound.2.symm⟩
  | exactly count =>
    constructor
    · intro stepped
      obtain ⟨_, counted, rfl⟩ := map_eq_ok_iff.1 stepped
      obtain ⟨value, found, rfl⟩ := map_eq_ok_iff.1 counted
      obtain ⟨fits, rfl⟩ := Numeral.value_eq_ok_iff.1 found
      exact ⟨fits, trivial, rfl⟩
    · rintro ⟨fits, _, rfl⟩
      rw [Mark.step, Numeral.value_eq_ok_iff.2 ⟨fits, rfl⟩]
      rfl
  | range least most =>
    simp only [Mark.step, Mark.IsSound, Mark.HasRoom, Mark.built, bind_eq_ok_iff, Numeral.value_eq_ok_iff, true_and]
    constructor
    · rintro ⟨low, ⟨lowFits, rfl⟩, high, ⟨highFits, rfl⟩, checked⟩
      split at checked
      · cases checked
      · cases checked
        exact ⟨⟨lowFits, highFits, by omega⟩, rfl⟩
    · rintro ⟨⟨lowFits, highFits, ordered⟩, rfl⟩
      refine ⟨_, ⟨lowFits, rfl⟩, _, ⟨highFits, rfl⟩, ?_⟩
      rw [if_neg (by omega)]
      rfl
  | _ => simp [Mark.step, Mark.IsSound, Mark.HasRoom, Mark.built, eq_comm]

theorem buildSteps_eq_ok_iff [Limits] {source : Source} {depth : Nat} {marks : List Mark} {steps : List BuildStep} :
    buildSteps source depth marks = .ok steps ↔
      (∀ mark ∈ marks, mark.IsSound) ∧ HaveRoom depth marks ∧ steps = marks.map (Mark.built source) := by
  induction marks generalizing depth steps with
  | nil => simp [buildSteps, HaveRoom, eq_comm]
  | cons mark rest ih =>
    simp only [buildSteps, bind_eq_ok_iff, Mark.step_eq_ok_iff, ih, List.forall_mem_cons, List.map_cons, HaveRoom]
    constructor
    · rintro ⟨step, ⟨sound, room, rfl⟩, others, ⟨sounds, more, rfl⟩, same⟩
      cases same
      exact ⟨⟨sound, sounds⟩, ⟨room, more⟩, rfl⟩
    · rintro ⟨⟨sound, sounds⟩, ⟨room, more⟩, rfl⟩
      exact ⟨_, ⟨sound, room, rfl⟩, _, ⟨sounds, more, rfl⟩, rfl⟩

/-- If every mark is sound, the walk fails for nothing but a group that is too deep. -/
theorem buildSteps_eq_tooDeep [Limits] {source : Source} {depth : Nat} {marks : List Mark}
    (sound : ∀ mark ∈ marks, mark.IsSound) (full : ¬HaveRoom depth marks) :
    buildSteps source depth marks = .error .tooDeep := by
  induction marks generalizing depth with
  | nil => exact absurd trivial full
  | cons mark rest ih =>
    rw [List.forall_mem_cons] at sound
    by_cases room : mark.HasRoom depth
    · have later := ih sound.2 fun more => full ⟨room, more⟩
      rw [buildSteps, Mark.step_eq_ok_iff.2 ⟨sound.1, room, rfl⟩, later]
      rfl
    · cases mark with
      | openGroup column =>
        have closed : Mark.step source depth (.openGroup column) = .error .tooDeep := if_neg room
        rw [buildSteps, closed]
        rfl
      | _ => exact absurd trivial room

theorem WrittenAtom.isSound_mark_iff (atom : WrittenAtom) : atom.mark.IsSound ↔ atom.meaning.HasText := by
  cases atom with
  | literal spelling column => simp [mark, meaning, Mark.IsSound, Atom.HasText]
  | symbol name column => exact Iff.rfl

theorem WrittenRepeat.isSound_mark_iff (repeated : WrittenRepeat) :
    repeated.mark.IsSound ↔ (∀ token ∈ repeated.tokens, token.fitsLimit) ∧ repeated.meaning.IsOrdered := by
  cases repeated <;> simp [mark, meaning, tokens, Mark.IsSound, Repeat.IsOrdered, Token.fitsLimit, and_assoc]

/-- The marks of a pattern are sound exactly if its numerals are within the limit and it says something proper. -/
theorem Written.isSound_iff (written : Written) : (∀ mark ∈ written.write markScript, mark.IsSound) ↔
    (∀ token ∈ written.write tokenScript, token.fitsLimit) ∧
      (∀ atom ∈ written.meaning.atoms, atom.HasText) ∧ ∀ r ∈ written.meaning.repeats, r.IsOrdered := by
  have marks := Phrase.forall_mem_write markScript Mark.IsSound written (fun _ => trivial) trivial trivial
  have tokens := Phrase.forall_mem_write tokenScript (fun token => token.fitsLimit = true) written (fun _ => rfl) rfl rfl
  have atoms : ∀ a : WrittenAtom, ∀ token ∈ a.tokens, token.fitsLimit = true := by
    rintro (_ | _) <;> simp [WrittenAtom.tokens, Token.fitsLimit]
  rw [marks, tokens]
  simp only [Phrase.meaning, Phrase.atoms_map, Phrase.repeats_map, List.forall_mem_map, markScript, tokenScript_atom,
    tokenScript_repeated, List.forall_mem_singleton, WrittenAtom.isSound_mark_iff, WrittenRepeat.isSound_mark_iff]
  constructor
  · rintro ⟨texts, repeats⟩
    exact ⟨⟨fun a _ => atoms a, fun r member => (repeats r member).1⟩, texts, fun r member => (repeats r member).2⟩
  · rintro ⟨⟨_, fits⟩, texts, ordered⟩
    exact ⟨texts, fun r member => ⟨fits r member, ordered r member⟩⟩

theorem WrittenAtom.content_ne_empty {atom : WrittenAtom} (proper : atom.IsProper) (source : Source) :
    (atom.node source).content ≠ "" := by
  obtain ⟨spelled, text⟩ := atom.isProper_iff.1 proper
  cases atom with
  | literal spelling column => exact text
  | symbol name column =>
    have isName : IsName name := spelled (.name name) (by simp [tokens])
    simpa [node] using isName.1

theorem content_ne_empty_of_isProper {written : Written} (proper : written.IsProper) (source : Source) :
    ∀ a ∈ written.atoms, (a.node source).content ≠ "" :=
  fun a member => WrittenAtom.content_ne_empty ((Written.isProper_iff written).1 proper |>.1 a member) source

/-- A written pattern, which is cut out of the text and makes its build steps, is proper and makes the table. -/
theorem Written.build_of_buildSteps [Limits] {source : Source} {written : Written} {steps : List BuildStep}
    (tokens : written.write tokenScript = (scan source.pattern.toList).map Lexeme.token)
    (stepped : buildSteps source 0 (written.write markScript) = .ok steps) :
    written.IsProper ∧ Rendered (written.write tokenScript) source.pattern.toList ∧
      build steps = .ok (Written.table source written) := by
  obtain ⟨sound, _, rfl⟩ := buildSteps_eq_ok_iff.1 stepped
  have known := written.isStray_eq_false
  rw [tokens, List.forall_mem_map] at known
  obtain ⟨rendered, spelled⟩ := rendered_of_scanFrom known
  have proper : Written.IsProper written := by
    refine ⟨?_, (written.isSound_iff.1 sound).2⟩
    rw [tokens, List.forall_mem_map]
    exact spelled
  refine ⟨proper, tokens ▸ rendered, ?_⟩
  rw [Phrase.map_write, ← stepScript, build_write (content_ne_empty_of_isProper proper source)]

/-- The steps of marks that were read make the table of a proper written pattern, which the text renders. -/
theorem exists_written_of_buildSteps [Limits] {source : Source} {marks : List Mark} {steps : List BuildStep}
    (read : Pattern.marks source.pattern.toList = .ok marks) (stepped : buildSteps source 0 marks = .ok steps) :
    ∃ written : Written, written.IsProper ∧ Rendered (written.write tokenScript) source.pattern.toList ∧
      build steps = .ok (Written.table source written) := by
  obtain ⟨written, tokens, rfl⟩ := Reading.exists_written read
  exact ⟨written, written.build_of_buildSteps tokens stepped⟩

/-- A pattern is accepted if its text has marks and these have steps, which make the table. -/
theorem parse_eq_ok_iff [Limits] {source : Source} {table : NodeTable} : parse source = .ok table ↔
    ∃ marks steps, Pattern.marks source.pattern.toList = .ok marks ∧ buildSteps source 0 marks = .ok steps ∧
      build steps = .ok table := by
  rw [parse]
  cases Pattern.marks source.pattern.toList with
  | error refusal => simp [Source.reject]
  | ok marks =>
    simp only [Except.ok.injEq, exists_and_left, exists_eq_left']
    exact bind_eq_ok_iff

/-- A pattern is refused if its text has no marks, or if one of them has no step. The steps that there are can be built.
-/
theorem parse_eq_error_iff [Limits] {source : Source} {error : ParseError} : parse source = .error error ↔
    (∃ refusal, Pattern.marks source.pattern.toList = .error refusal ∧
      error = .rejected ((source.refusal refusal).1.error source.pattern (source.refusal refusal).2)) ∨
    ∃ marks, Pattern.marks source.pattern.toList = .ok marks ∧ buildSteps source 0 marks = .error error := by
  rw [parse]
  cases read : Pattern.marks source.pattern.toList with
  | error refusal => simp [Source.reject, eq_comm]
  | ok marks =>
    simp only [reduceCtorEq, false_and, exists_false, false_or, Except.ok.injEq, exists_eq_left']
    constructor
    · intro failed
      obtain failed | ⟨steps, stepped, impossible⟩ := bind_eq_error_iff.1 failed
      · exact failed
      · obtain ⟨written, _, _, built⟩ := exists_written_of_buildSteps read stepped
        cases built.symm.trans impossible
    · exact fun failed => bind_eq_error_iff.2 (.inl failed)

/-- The table of an accepted pattern is that of a proper written pattern, which the text renders. -/
theorem exists_written_of_parse [Limits] {source : Source} {table : NodeTable} (accepted : parse source = .ok table) :
    ∃ written : Written, written.IsProper ∧ Rendered (written.write tokenScript) source.pattern.toList ∧
      table = Written.table source written := by
  obtain ⟨marks, steps, read, stepped, finished⟩ := parse_eq_ok_iff.1 accepted
  obtain ⟨written, proper, rendered, built⟩ := exists_written_of_buildSteps read stepped
  exact ⟨written, proper, rendered, Except.ok.inj (finished.symm.trans built)⟩

/-- A rendering of a proper written pattern within the limit is read as a proper written pattern of the same tokens,
whose marks are all sound. -/
theorem exists_written_of_rendered {source : Source} {written : Written} (proper : written.IsProper)
    (rendered : Rendered (written.write tokenScript) source.pattern.toList)
    (limit : ∀ lexeme ∈ scan source.pattern.toList, lexeme.token.fitsLimit) :
    ∃ reread : Written, Pattern.marks source.pattern.toList = .ok (reread.write markScript) ∧
      reread.meaning = written.meaning ∧ reread.IsProper ∧ ∀ mark ∈ reread.write markScript, mark.IsSound := by
  have tokens : (scan source.pattern.toList).map Lexeme.token = written.write tokenScript :=
    scanFrom_of_rendered rendered (Written.readable proper.1)
  obtain ⟨marks, read⟩ := Reading.accepts_written tokens.symm
  obtain ⟨reread, sameTokens, rfl⟩ := Reading.exists_written read
  rw [tokens] at sameTokens
  have meaning : Phrase.meaning reread = written.meaning := Written.meaning_eq sameTokens
  have sound : ∀ mark ∈ Phrase.write markScript reread, mark.IsSound := by
    rw [Written.isSound_iff reread, sameTokens, meaning]
    refine ⟨?_, proper.2⟩
    rw [← tokens, List.forall_mem_map]
    exact limit
  refine ⟨reread, read, meaning, ?_, sound⟩
  rw [Written.IsProper, sameTokens, meaning]
  exact proper

theorem Written.depth_meaning (written : Written) : written.meaning.depth = written.depth :=
  Phrase.depth_map ..

/-- A text that spells an expression is accepted if this is not too deep, and makes the walk fail if it is. -/
theorem parse_of_spelledBy [Limits] {source : Source} {expression : Expression}
    (spelled : expression.SpelledBy source.pattern.toList)
    (limit : ∀ lexeme ∈ scan source.pattern.toList, lexeme.token.fitsLimit) :
    (expression.depth ≤ Limits.nesting → ∃ table, parse source = .ok table) ∧
      (Limits.nesting < expression.depth → parse source = .error .tooDeep) := by
  obtain ⟨_, listed, rendered⟩ := spelled
  obtain ⟨written, rfl, rfl, proper⟩ := mem_spellings_iff.1 listed
  obtain ⟨reread, read, meaning, again, sound⟩ := exists_written_of_rendered proper rendered limit
  have depth : reread.depth = written.meaning.depth := by rw [← meaning, Written.depth_meaning]
  constructor
  · intro shallow
    have room : HaveRoom 0 (reread.write markScript) := reread.haveRoom_iff.2 (by omega)
    refine ⟨Written.table source reread, parse_eq_ok_iff.2 ⟨_, _, read, buildSteps_eq_ok_iff.2 ⟨sound, room, rfl⟩, ?_⟩⟩
    rw [Phrase.map_write, ← stepScript, build_write (content_ne_empty_of_isProper again source)]
  · intro deep
    have full : ¬HaveRoom 0 (reread.write markScript) := fun room => by
      have := reread.haveRoom_iff.1 room
      omega
    exact parse_eq_error_iff.2 (.inr ⟨_, read, buildSteps_eq_tooDeep sound full⟩)

/-- A text spells one expression at most. -/
theorem SpelledBy.unique {first second : Expression} {text : List Char} (one : first.SpelledBy text)
    (other : second.SpelledBy text) : first = second := by
  obtain ⟨_, spelledFirst, renderedFirst⟩ := one
  obtain ⟨_, spelledSecond, renderedSecond⟩ := other
  obtain ⟨writtenFirst, rfl, rfl, properFirst⟩ := mem_spellings_iff.1 spelledFirst
  obtain ⟨writtenSecond, rfl, rfl, properSecond⟩ := mem_spellings_iff.1 spelledSecond
  have tokensFirst : (scan text).map Lexeme.token = _ :=
    scanFrom_of_rendered renderedFirst (Written.readable properFirst.1)
  have tokensSecond : (scan text).map Lexeme.token = _ :=
    scanFrom_of_rendered renderedSecond (Written.readable properSecond.1)
  exact Written.meaning_eq (tokensFirst.symm.trans tokensSecond)

/-- What is accepted spells the expression that its table denotes. -/
theorem exists_spelledBy_of_parse [Limits] {source : Source} {table : NodeTable} (accepted : parse source = .ok table) :
    ∃ expression : Expression, expression.SpelledBy source.pattern.toList ∧
      table.chain = expression.chain false .nil := by
  obtain ⟨written, proper, rendered, rfl⟩ := exists_written_of_parse accepted
  exact ⟨written.meaning, ⟨_, mem_spellings_iff.2 ⟨written, rfl, rfl, proper⟩, rendered⟩,
    chain_table (content_ne_empty_of_isProper proper source)⟩

/-- What is accepted is not too deep. -/
theorem depth_le_of_parse [Limits] {source : Source} {table : NodeTable} (accepted : parse source = .ok table)
    {expression : Expression} (spelled : expression.SpelledBy source.pattern.toList) :
    expression.depth ≤ Limits.nesting := by
  obtain ⟨marks, steps, read, stepped, _⟩ := parse_eq_ok_iff.1 accepted
  obtain ⟨written, tokens, rfl⟩ := Reading.exists_written read
  obtain ⟨proper, rendered, _⟩ := written.build_of_buildSteps tokens stepped
  have same : expression = written.meaning :=
    SpelledBy.unique spelled ⟨_, mem_spellings_iff.2 ⟨written, rfl, rfl, proper⟩, rendered⟩
  obtain ⟨_, room, _⟩ := buildSteps_eq_ok_iff.1 stepped
  rw [same, Written.depth_meaning]
  exact written.haveRoom_iff.1 room

/-- The parser accepts a text, whose numerals have at most so many digits as a number may have, exactly if it spells an
expression that is not too deep. That expression is the only one it spells, and the table denotes it. A text that spells
an expression and is not accepted is too deep. -/
theorem parse_spelling [Limits] (source : Source)
    (limit : ∀ lexeme ∈ scan source.pattern.toList, lexeme.token.fitsLimit) :
    ((∃ table, parse source = .ok table) ↔
      ∃ expression : Expression, expression.SpelledBy source.pattern.toList ∧ expression.depth ≤ Limits.nesting) ∧
      (∀ table, parse source = .ok table → ∃ expression : Expression, expression.SpelledBy source.pattern.toList ∧
        (∀ other : Expression, other.SpelledBy source.pattern.toList → other = expression) ∧
        table.chain = expression.chain false .nil) ∧
      ∀ expression : Expression, expression.SpelledBy source.pattern.toList → Limits.nesting < expression.depth →
        parse source = .error .tooDeep := by
  refine ⟨⟨?_, ?_⟩, ?_, fun expression spelled => (parse_of_spelledBy spelled limit).2⟩
  · rintro ⟨table, accepted⟩
    obtain ⟨expression, spelled, _⟩ := exists_spelledBy_of_parse accepted
    exact ⟨expression, spelled, depth_le_of_parse accepted spelled⟩
  · rintro ⟨expression, spelled, shallow⟩
    exact (parse_of_spelledBy spelled limit).1 shallow
  · intro table accepted
    obtain ⟨expression, spelled, denotes⟩ := exists_spelledBy_of_parse accepted
    exact ⟨expression, spelled, fun other same => SpelledBy.unique same spelled, denotes⟩

/-- A group with an escaped quote in a literal, a repeated symbol, and zeros before a number. -/
def groupSource : Source := ⟨"( 'a\\'b'|<c_1>+)\x7b02,3\x7d", "example", 1⟩

section
open scoped Workstation

theorem parse_spelling_group : (∀ lexeme ∈ scan groupSource.pattern.toList, lexeme.token.fitsLimit) ∧
    ∃ table, parse groupSource = .ok table ∧ ∃ expression : Expression,
      expression.SpelledBy groupSource.pattern.toList ∧
      (∀ other : Expression, other.SpelledBy groupSource.pattern.toList → other = expression) ∧
      table.chain = expression.chain false .nil := by
  have limit : ∀ lexeme ∈ scan groupSource.pattern.toList, lexeme.token.fitsLimit := by decide
  obtain ⟨table, accepted⟩ : ∃ table, parse groupSource = .ok table := ⟨_, rfl⟩
  exact ⟨limit, table, accepted, (parse_spelling groupSource limit).2.1 table accepted⟩

end

/-! ## A text that is too deep -/

/-- A literal inside of a number of groups. -/
def nested : Nat → Expression
  | 0 => .last (.atom (.literal "a") none)
  | depth + 1 => .last (.group () (.last (nested depth)) none)

/-- The text of a literal inside of a number of groups, with some text after it. -/
def nestedText (depth : Nat) (rest : List Char) : List Char :=
  List.replicate depth '(' ++ ("'a'".toList ++ (List.replicate depth ')' ++ rest))

theorem depth_nested (depth : Nat) : (nested depth).depth = depth := by
  induction depth with
  | zero => rfl
  | succ depth ih => rw [nested, Phrase.depth, Item.depth, Choice.depth, ih]

theorem exists_rendered_nested (depth : Nat) {after : List Token} {rest : List Char} (rendered : Rendered after rest) :
    ∃ tokens ∈ (nested depth).spellings, Rendered (tokens ++ after) (nestedText depth rest) := by
  induction depth generalizing after rest with
  | zero =>
    have literal : IsLiteral "'a'".toList ['a'] :=
      ⟨'\'', ['a'], .inr rfl, .plain (by decide) (by decide) (by decide) .nil, rfl⟩
    refine ⟨[.literal "'a'".toList], ?_, @Rendered.cons [] _ _ _ (by simp) rendered⟩
    rw [nested, Phrase.spellings, Item.spellings]
    exact Language.mem_mul.2 ⟨_, ⟨by decide, _, literal, rfl⟩, [], rfl, rfl⟩
  | succ depth ih =>
    have closed : Rendered (.closeGroup :: after) (')' :: rest) := @Rendered.cons [] .closeGroup _ _ (by simp) rendered
    obtain ⟨tokens, spelled, inner⟩ := ih closed
    have same : nestedText (depth + 1) rest = '(' :: nestedText depth (')' :: rest) := by
      rw [nestedText, List.replicate_succ, List.replicate_succ', List.append_assoc]
      rfl
    refine ⟨[.openGroup] ++ tokens ++ [.closeGroup] ++ [], ?_, ?_⟩
    · rw [nested, Phrase.spellings, Item.spellings, Choice.spellings]
      exact Language.append_mem_mul (Language.append_mem_mul (Language.append_mem_mul rfl spelled) rfl) rfl
    · have opened : Rendered (.openGroup :: (tokens ++ .closeGroup :: after)) ('(' :: nestedText depth (')' :: rest)) :=
        @Rendered.cons [] .openGroup _ _ (by simp) inner
      rw [same]
      simpa using opened

/-- A literal inside of one group more than there is room for. -/
def deepSource : Source := ⟨String.ofList (nestedText 98 []), "<patterns>", 1⟩

theorem toList_deepSource : deepSource.pattern.toList = nestedText 98 [] :=
  String.toList_ofList

theorem spelledBy_deepSource : (nested 98).SpelledBy deepSource.pattern.toList := by
  obtain ⟨tokens, spelled, rendered⟩ := exists_rendered_nested 98 (@Rendered.nil [] (by simp))
  rw [List.append_nil] at rendered
  exact ⟨tokens, spelled, toList_deepSource ▸ rendered⟩

section
open scoped Workstation

theorem parse_deepSource : parse deepSource = .error .tooDeep := by
  refine (parse_of_spelledBy spelledBy_deepSource ?_).2 ?_
  · rw [toList_deepSource]
    decide +kernel
  · rw [depth_nested]
    decide

/-- A text that spells an expression and is not accepted. -/
theorem parse_deep : ∃ expression : Expression, expression.SpelledBy deepSource.pattern.toList ∧
    parse deepSource = .error .tooDeep :=
  ⟨nested 98, spelledBy_deepSource, parse_deepSource⟩

end

end Utterance.Pattern
