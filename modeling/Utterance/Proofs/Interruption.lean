import Utterance.Proofs.PatternLines

/-!
# What ends a pattern file early

Whatever is wrong with a line is reported, as long as its numbers and its groups stay within the limits of the machine
and the transliterator either answers or refuses. The first line that goes beyond one of the limits, or that the
transliterator fails for, ends the file, and nothing else does (`aborted_compile_eq_some_iff`). The limits are for the
digits of a numeral, for groups inside of groups, for how often an item is said, and for the number of an item.
-/

namespace Utterance
set_option autoImplicit false
open Pattern

/-- How a pattern, whose items are numbered from `number`, goes beyond a limit, or beyond what the transliterator is
for. -/
inductive Pattern.Source.Exceeds [Limits] (transliterate : Transliterator) (source : Source) (number : Int) : Failure → Prop
    where
  /-- a numeral has more digits than can be converted -/
  | numeral {digits : List Char} (listed : digits ∈ numerals source.pattern.toList) (long : digitLimit < digits.length) :
      Exceeds transliterate source number (.oversizedNumeral digits.length)
  /-- a group is inside of too many others -/
  | group (deep : IsDeep source.pattern.toList) : Exceeds transliterate source number .tooDeep
  /-- an item cannot be said that number of times -/
  | count {table : NodeTable} {repetition : Repetition} {fault : CapacityFault} (accepted : parse source = .ok table)
      (listed : repetition ∈ table.chain.repetitions) (exceeds : repetition.Exceeds fault) :
      Exceeds transliterate source number (.capacity fault)
  /-- the number of an item cannot be written -/
  | number {table : NodeTable} {item : Int} (accepted : parse source = .ok table)
      (listed : item ∈ table.chain.itemNumbers number) (unwritable : isWritable item = false) :
      Exceeds transliterate source number .oversizedNumber
  /-- the transliterator fails for a literal, but not because the literal cannot be said -/
  | literal {table : NodeTable} {text reason : String} (accepted : parse source = .ok table)
      (listed : text ∈ table.chain.literals) (fails : transliterate text = .error (.other reason)) :
      Exceeds transliterate source number (.transliterator reason)

section Interruption

variable [Limits] {transliterate : Transliterator}

theorem Pattern.Source.Exceeds.ne_user {source : Source} {number : Int} {failure : Failure}
    (exceeds : source.Exceeds transliterate number failure) (error : UserError) : failure ≠ .user error := by
  cases exceeds <;> simp

/-- A pattern that is not added is wrong in a way that is reported, or goes beyond a limit. -/
theorem Session.exceeds_of_add {session : Session} {source : Source} {failure : Failure}
    (failed : session.add transliterate source = .error failure) (other : ∀ error, failure ≠ .user error) :
    source.Exceeds transliterate session.nextNumber failure := by
  obtain ⟨cause, refuses, rfl⟩ | ⟨table, fault, accepted, hinders, rfl⟩ := exists_cause_of_add failed
  · cases refuses with
    | fault inside => exact absurd rfl (other _)
    | numeral listed long => exact .numeral listed long
    | group deep => exact .group deep
  · cases hinders with
    | @literal text fault listed refused =>
      cases fault with
      | unpronounceable details => exact absurd rfl (other _)
      | other reason => exact .literal accepted listed refused
    | repetition listed exceeds => exact .count accepted listed exceeds
    | number listed unwritable => exact .number accepted listed unwritable

theorem Trial.interruption?_eq_some_iff_exceeds {trial : Trial} {failure : Failure} :
    trial.interruption? transliterate = some failure ↔
      trial.outcome transliterate = .error failure ∧
        trial.source.Exceeds transliterate trial.session.nextNumber failure := by
  rw [interruption?_eq_some_iff]
  constructor
  · rintro ⟨failed, other⟩
    exact ⟨failed, Session.exceeds_of_add failed other⟩
  · rintro ⟨failed, exceeds⟩
    exact ⟨failed, exceeds.ne_user⟩

/-- The first line that goes beyond a limit, or that the transliterator fails for, ends the file, and no other does. -/
theorem Session.aborted_compile_eq_some_iff (transliterate : Transliterator) (session : Session) (text file : String)
    (failure : Failure) :
    (session.compile transliterate text file).aborted = some failure ↔
      ∃ before trial after, session.trials transliterate (patternSources text file) = before ++ trial :: after ∧
        trial.outcome transliterate = .error failure ∧ trial.source.Exceeds transliterate trial.session.nextNumber failure ∧
        ∀ earlier ∈ before, ∀ cause, earlier.outcome transliterate = .error cause → ∃ error, cause = .user error := by
  simp only [aborted_compile, List.findSome?_eq_some_iff, Trial.interruption?_eq_some_iff_exceeds,
    Trial.interruption?_eq_none_iff_forall, and_assoc]

/-- A file that ends with its first pattern adds nothing and reports nothing. -/
theorem Session.compile_of_first {session : Session} {text file : String} {source : Source} {rest : List Source}
    {failure : Failure} (listed : patternSources text file = source :: rest)
    (failed : session.add transliterate source = .error failure) (other : ∀ error, failure ≠ .user error) :
    session.compile transliterate text file =
      { session, report := { sources := [⟨file, text, 1⟩] }, aborted := some failure } := by
  have interrupts : Trial.interruption? transliterate ⟨session, source⟩ = some failure :=
    Trial.interruption?_eq_some_iff.2 ⟨failed, other⟩
  have last : ¬Trial.isReportable transliterate ⟨session, source⟩ = true := by
    rw [Trial.isReportable, interrupts]
    exact Bool.false_ne_true
  rw [compile_eq, listed, trials, List.takeWhile_cons_of_neg last, List.findSome?_cons_of_isSome (by rw [interrupts]; rfl),
    interrupts, Compilation.recorded_nil]

end Interruption

/-! ## Files that do end early -/

namespace Pattern

/-- The tokens of a literal that is said a number of times. -/
def countedLiteral (digits : List Char) : List Token :=
  [.literal "'a'".toList, .openCount, .numeral digits, .closeCount]

theorem readable_countedLiteral {digits : List Char} (nonempty : digits ≠ []) (all : ∀ c ∈ digits, isDigit c) :
    Readable false (countedLiteral digits) := by
  have literal : (Token.literal "'a'".toList).IsSpelled :=
    ⟨['a'], '\'', ['a'], .inr rfl, .plain (by decide) (by decide) (by decide) .nil, rfl⟩
  refine ⟨literal, trivial, False.elim, trivial, trivial, False.elim, ⟨nonempty, all⟩, rfl, fun _ next member => ?_,
    trivial, trivial, False.elim, trivial⟩
  cases member
  exact ⟨'\x7d', rfl⟩

/-- A literal that is said a number of times. -/
def countedSource (digits : List Char) : Source :=
  ⟨String.ofList ("'a'\x7b".toList ++ digits ++ ['\x7d']), "example", 1⟩

theorem rendered_countedLiteral (digits : List Char) :
    Rendered (countedLiteral digits) (countedSource digits).pattern.toList := by
  have text : (countedSource digits).pattern.toList =
      [] ++ ("'a'".toList ++ ([] ++ (['\x7b'] ++ ([] ++ (digits ++ ([] ++ (['\x7d'] ++ []))))))) := by
    refine String.toList_ofList.trans ?_
    rw [List.append_assoc]
    rfl
  rw [text]
  exact .cons (by simp) (.cons (by simp) (.cons (by simp) (.cons (by simp) (.nil (by simp)))))

/-- A numeral that is too long for conversion is no fault of the pattern. -/
theorem parse_countedSource [Limits] {digits : List Char} (all : ∀ c ∈ digits, isDigit c)
    (long : digitLimit < digits.length) :
    parse (countedSource digits) = .error (.oversizedNumeral digits.length) := by
  have nonempty : digits ≠ [] := by
    rintro rfl
    exact absurd long (by decide)
  have tokens : (scan (countedSource digits).pattern.toList).map Lexeme.token = countedLiteral digits :=
    scanFrom_of_rendered (rendered_countedLiteral digits) (readable_countedLiteral nonempty all)
  rw [countedLiteral] at tokens
  simp only [List.map_eq_cons_iff, List.map_eq_nil_iff] at tokens
  obtain ⟨⟨_, first⟩, _, scanned, rfl, ⟨_, _⟩, _, rfl, rfl, ⟨_, third⟩, _, rfl, rfl, ⟨_, _⟩, _, rfl, rfl, rfl⟩ := tokens
  have read : marks (countedSource digits).pattern.toList =
      .ok [.literal "'a'".toList first, .exactly ⟨digits, third⟩] := by
    rw [marks, scanned]
    rfl
  have oversized : Numeral.value ⟨digits, third⟩ = .error (.oversizedNumeral digits.length) :=
    Numeral.value_eq_error_iff.2 ⟨long, rfl⟩
  have steps : buildSteps (countedSource digits) 0 [.literal "'a'".toList first, .exactly ⟨digits, third⟩] =
      .error (.oversizedNumeral digits.length) := by
    refine bind_eq_error_iff.2 (.inr ⟨_, rfl, bind_eq_error_iff.2 (.inl (bind_eq_error_iff.2 (.inl ?_)))⟩)
    exact map_eq_error_iff.2 (map_eq_error_iff.2 oversized)
  rw [parse, read]
  exact bind_eq_error_iff.2 (.inl steps)

end Pattern

/-- A number of times that no list has for its length, and a pattern after it. -/
def excessiveText : String := "'a'\x7b99999999999999999999\x7d\n'b'\n"

/-- A literal inside of more groups than there is room for, and a pattern after it. -/
def deepText : String := deepSource.pattern ++ "\n'b'\n"

theorem patternSources_deepText : patternSources deepText "<patterns>" = [deepSource, ⟨"'b'", "<patterns>", 2⟩] := by
  have lines : Text.lines deepText.toList = [nestedText 98 [], ['\'', 'b', '\'']] := by
    rw [deepText, String.toList_append, toList_deepSource]
    decide +kernel
  have first : isPatternLine (nestedText 98 []) = true := by decide +kernel
  rw [← map_lineSource_patternLines, patternLines, lines, numberedPatterns, if_pos first]
  rfl

section
open scoped Workstation

/-- A pattern with a long numeral is not refused for a fault, and an item that is said too often, or a group that is too
deep, keeps the pattern in the next line from being added. -/
theorem parse_and_compile_limits :
    parse (countedSource (List.replicate 4301 '9')) = .error (.oversizedNumeral 4301) ∧
      (Session.compile .verbatim {} excessiveText).aborted = some (.capacity .notIndexSized) ∧
      (Session.compile .verbatim {} excessiveText).compiled = 0 ∧
      (Session.compile .verbatim {} excessiveText).report.diagnostics = [] ∧
      (Session.compile .verbatim {} deepText).aborted = some .tooDeep ∧
      (Session.compile .verbatim {} deepText).compiled = 0 ∧
      (Session.compile .verbatim {} deepText).report.diagnostics = [] ∧
      (Session.add .verbatim {} ⟨"'b'", "<patterns>", 2⟩).isOk := by
  have excessive : Session.compile .verbatim {} excessiveText =
      ⟨{}, { sources := [⟨"<patterns>", excessiveText, 1⟩] }, 0, some (.capacity .notIndexSized)⟩ := by decide +kernel
  have tooDeep : Session.add .verbatim {} deepSource = .error .tooDeep := by
    rw [Session.add_eq, Session.parse, parse_deepSource]
    rfl
  have deep := Session.compile_of_first patternSources_deepText tooDeep (fun error => Failure.noConfusion)
  have length : (List.replicate 4301 '9').length = 4301 := List.length_replicate
  have digits : ∀ c ∈ List.replicate 4301 '9', isDigit c := by
    intro c member
    obtain rfl := List.eq_of_mem_replicate member
    decide
  have refused := parse_countedSource digits (by rw [length]; decide)
  rw [length] at refused
  rw [excessive, deep]
  exact ⟨refused, rfl, rfl, rfl, rfl, rfl, rfl, by decide +kernel⟩

end

end Utterance
