import Utterance.Proofs.Cutting

/-!
# Where a text stops being a pattern

A text without the form of a pattern is refused at the first place where it goes wrong (`locates_parse`). What stands
before this place can be completed to a pattern. The character at the place cannot be kept, unless it is a quote, which
may only lack its end.
-/

namespace Utterance.Pattern
set_option autoImplicit false

/-! ## Readings on their way -/

namespace Reading

/-- The reading after lexemes, if all of them fit. -/
def advance : Reading → List Lexeme → Option Reading
  | reading, [] => some reading
  | reading, lexeme :: rest =>
    match reading.step lexeme with
    | some (next, _) => advance next rest
    | none => none

theorem advance_cons_eq_some {reading next : Reading} {lexeme : Lexeme} {rest : List Lexeme} :
    reading.advance (lexeme :: rest) = some next ↔
      ∃ middle here, reading.step lexeme = some (middle, here) ∧ middle.advance rest = some next := by
  rw [advance]
  cases reading.step lexeme with
  | none => simp
  | some result =>
    obtain ⟨middle, here⟩ := result
    simp

/-- What is accepted after lexemes that fit is accepted from where they lead. -/
theorem accepts_append_iff {reading next : Reading} {before : List Lexeme} (advanced : reading.advance before = some next)
    (after : List Lexeme) : reading.Accepts (before ++ after) ↔ next.Accepts after := by
  induction before generalizing reading with
  | nil =>
    cases advanced
    rfl
  | cons lexeme rest ih =>
    obtain ⟨middle, here, step, onward⟩ := advance_cons_eq_some.1 advanced
    rw [← ih onward, List.cons_append]
    constructor
    · rintro ⟨marks, accepted⟩
      obtain ⟨_, _, more, stepToo, read, _⟩ := marks_cons_eq_ok.1 accepted
      cases step.symm.trans stepToo
      exact ⟨more, read⟩
    · exact accepts_cons step

/-- Lexemes are refused at the first that does not fit, or at their end. -/
theorem exists_advance_of_refused {reading : Reading} {lexemes : List Lexeme} {refusal : Refusal}
    (refused : reading.marks lexemes = .error refusal) :
    (∃ before lexeme after next, refusal = .lexeme lexeme ∧ lexemes = before ++ lexeme :: after ∧
      reading.advance before = some next ∧ next.step lexeme = none) ∨
    refusal = .tooShort ∧ ∃ next, reading.advance lexemes = some next := by
  induction lexemes generalizing reading with
  | nil =>
    rw [Reading.marks] at refused
    split at refused
    · cases refused
    · cases refused
      exact .inr ⟨rfl, reading, rfl⟩
  | cons lexeme rest ih =>
    cases step : reading.step lexeme with
    | none =>
      rw [Reading.marks, step] at refused
      cases refused
      exact .inl ⟨[], lexeme, rest, reading, rfl, rfl, rfl, step⟩
    | some result =>
      obtain ⟨middle, here⟩ := result
      rw [Reading.marks, step] at refused
      obtain ⟨before, wrong, after, next, rfl, rfl, onward, stuck⟩ | ⟨rfl, next, onward⟩ := ih (map_eq_error_iff.1 refused)
      · have advanced := advance_cons_eq_some.2 ⟨middle, here, step, onward⟩
        exact .inl ⟨lexeme :: before, wrong, after, next, rfl, rfl, advanced, stuck⟩
      · exact .inr ⟨rfl, next, advance_cons_eq_some.2 ⟨middle, here, step, onward⟩⟩

theorem step_stray (reading : Reading) (c : Char) (column : Nat) : reading.step ⟨.stray c, column⟩ = none := by
  obtain ⟨expecting, depth⟩ := reading
  cases expecting <;> rfl

theorem isStray_eq_false_of_advance {reading next : Reading} {lexemes : List Lexeme}
    (advanced : reading.advance lexemes = some next) : ∀ lexeme ∈ lexemes, lexeme.token.isStray = false := by
  induction lexemes generalizing reading with
  | nil => exact List.forall_mem_nil _
  | cons lexeme rest ih =>
    obtain ⟨middle, here, step, onward⟩ := advance_cons_eq_some.1 advanced
    refine List.forall_mem_cons.2 ⟨?_, ih onward⟩
    obtain ⟨token, column⟩ := lexeme
    cases token with
    | stray c => cases (step_stray reading c column).symm.trans step
    | _ => rfl

/-! ## Completions -/

/-- Tokens after which an item is complete. -/
def itemCompletion : Expecting → List Token
  | .item => [.literal "'a'".toList]
  | .repetition => []
  | .more => []
  | .name => [.name ['a'], .closeName]
  | .nameEnd _ _ => [.closeName]
  | .least => [.numeral ['1'], .closeCount]
  | .leastEnd _ => [.closeCount]
  | .most _ => [.numeral ['1'], .closeCount]
  | .mostEnd _ _ => [.closeCount]

/-- Tokens that complete a pattern: the item, and then all open groups. -/
def completion (reading : Reading) : List Token :=
  itemCompletion reading.expecting ++ List.replicate reading.depth .closeGroup

theorem isSpelled_of_mem_itemCompletion (expecting : Expecting) :
    ∀ token ∈ itemCompletion expecting, token.IsSpelled := by
  have one : (Token.numeral ['1']).IsSpelled := ⟨List.cons_ne_nil _ _, List.forall_mem_singleton.2 (by decide)⟩
  cases expecting with
  | item =>
    refine List.forall_mem_singleton.2 ⟨['a'], '\'', ['a'], .inr rfl, ?_, rfl⟩
    exact .plain (by decide) (by decide) (by decide) .nil
  | repetition => exact List.forall_mem_nil _
  | more => exact List.forall_mem_nil _
  | name =>
    have isName : IsName ['a'] := by decide
    exact List.forall_mem_cons.2 ⟨isName, List.forall_mem_singleton.2 trivial⟩
  | nameEnd name column => exact List.forall_mem_singleton.2 trivial
  | least => exact List.forall_mem_cons.2 ⟨one, List.forall_mem_singleton.2 trivial⟩
  | leastEnd least => exact List.forall_mem_singleton.2 trivial
  | most least => exact List.forall_mem_cons.2 ⟨one, List.forall_mem_singleton.2 trivial⟩
  | mostEnd least most => exact List.forall_mem_singleton.2 trivial

theorem isSpelled_of_mem_completion (reading : Reading) : ∀ token ∈ reading.completion, token.IsSpelled := by
  refine List.forall_mem_append.2 ⟨isSpelled_of_mem_itemCompletion reading.expecting, ?_⟩
  intro token closing
  rw [List.eq_of_mem_replicate closing]
  trivial

/-- After an item, the open groups can be closed. -/
theorem accepts_closings (depth : Nat) :
    Accepts ⟨.more, depth⟩ ((List.replicate depth Token.closeGroup).map fun token => ⟨token, 0⟩) := by
  induction depth with
  | zero => exact ⟨[], rfl⟩
  | succ depth ih => exact accepts_cons rfl (accepts_repetition_of_more ih)

theorem accepts_completion (reading : Reading) : reading.Accepts (reading.completion.map fun token => ⟨token, 0⟩) := by
  obtain ⟨expecting, depth⟩ := reading
  have closings := accepts_closings depth
  have afterItem := accepts_repetition_of_more closings
  rw [completion, List.map_append]
  cases expecting with
  | item => exact accepts_cons rfl afterItem
  | repetition => exact afterItem
  | more => exact closings
  | name => exact accepts_cons rfl (accepts_cons rfl afterItem)
  | nameEnd name column => exact accepts_cons rfl afterItem
  | least => exact accepts_cons rfl (accepts_cons rfl closings)
  | leastEnd least => exact accepts_cons rfl closings
  | most least => exact accepts_cons rfl (accepts_cons rfl closings)
  | mostEnd least most => exact accepts_cons rfl closings

end Reading

theorem rendered_flatMap_spelling (tokens : List Token) : Rendered tokens (tokens.flatMap Token.spelling) := by
  induction tokens with
  | nil => exact .nil (List.forall_mem_nil _)
  | cons token rest ih => exact ih.token

/-- A text whose lexemes all fit can be completed. -/
theorem exists_isSyntactic_append {before : List Lexeme} {head : List Char} {next : Reading}
    (rendered : Rendered (before.map Lexeme.token) head) (spelled : ∀ lexeme ∈ before, lexeme.token.IsSpelled)
    (advanced : Reading.start.advance before = some next) : ∃ more, IsSyntactic (head ++ more) := by
  have accepts := (Reading.accepts_append_iff advanced _).2 next.accepts_completion
  obtain ⟨marks, read⟩ := accepts
  obtain ⟨written, tokens, _⟩ := Reading.exists_written read
  have split : written.write tokenScript = before.map Lexeme.token ++ next.completion := by
    rw [tokens, List.map_append, List.map_map]
    exact congrArg (before.map Lexeme.token ++ ·) (List.map_id _)
  refine ⟨next.completion.flatMap Token.spelling, written, ?_, ?_⟩
  · rw [split, List.forall_mem_append, List.forall_mem_map]
    exact ⟨spelled, next.isSpelled_of_mem_completion⟩
  · rw [split]
    exact rendered.append (rendered_flatMap_spelling _)

/-! ## Characters that do not fit -/

/-- The token without the text of a name or the digits of a numeral. -/
def Token.kind : Token → Token
  | .name _ => .name []
  | .numeral _ => .numeral []
  | token => token

/-- Whether a lexeme fits depends on the kind of its token only. -/
theorem Reading.step_eq_none_iff {reading : Reading} {token : Token} {column : Nat} :
    reading.step ⟨token, column⟩ = none ↔ reading.step ⟨token.kind, 0⟩ = none := by
  obtain ⟨expecting, depth⟩ := reading
  cases token <;> cases expecting <;> cases depth <;>
    simp [Reading.step, Reading.startItem, Reading.repeatItem, Reading.followItem, Token.kind]

/-- Except at a quote, the kind of the token that is found depends on the first character only. -/
theorem kind_starting {numeric : Bool} {c : Char} (noQuote : ¬(c = '"' ∨ c = '\'')) (rest other : List Char) :
    (Token.starting numeric c rest).kind = (Token.starting numeric c other).kind := by
  have starts := starts_starting numeric c rest
  generalize Token.starting numeric c rest = token at starts
  cases starts with
  | sign found => rw [starting_eq_iff.2 (.sign found)]
  | literal quote closed => exact absurd quote noQuote
  | unclosed quote endless => exact absurd quote noQuote
  | numeral announced digit =>
    rw [starting_eq_iff.2 (.numeral announced digit)]
    rfl
  | name otherwise letter =>
    rw [starting_eq_iff.2 (.name otherwise letter)]
    rfl
  | stray noSign noQuote noLetter => rw [starting_eq_iff.2 (.stray noSign noQuote noLetter)]

/-- A character that does not fit, and is no quote, fits no better if something else follows it. -/
theorem not_isSyntactic_of_cutAt {before : List Lexeme} {head rest : List Char} {c : Char} {column : Nat} {next : Reading}
    (cut : CutAt false 1 before head c) (advanced : Reading.start.advance before = some next)
    (stuck : next.step ⟨Token.starting (announced false before) c rest, column⟩ = none)
    (noQuote : ¬(c = '"' ∨ c = '\'')) (other : List Char) : ¬IsSyntactic (head ++ c :: other) := by
  intro valid
  obtain ⟨marks, read⟩ := isSyntactic_iff.1 valid
  obtain ⟨after, scanned⟩ := cut.scanned other
  rw [Pattern.marks, scan, scanned] at read
  obtain ⟨more, onward⟩ := (Reading.accepts_append_iff advanced _).1 ⟨marks, read⟩
  obtain ⟨_, _, _, step, _, _⟩ := Reading.marks_cons_eq_ok.1 onward
  rw [Reading.step_eq_none_iff, kind_starting noQuote rest other, ← Reading.step_eq_none_iff] at stuck
  cases stuck.symm.trans step

/-! ## Messages -/

/-- What is said of a text that ends too early. -/
def endMessage : String := "invalid pattern syntax: unexpected end of pattern"

theorem ne_endMessage {text : String} (other : text.toList.head? ≠ some 'e') :
    "invalid pattern syntax: unexpected " ++ text ≠ endMessage := by
  intro same
  have split : endMessage.toList = "invalid pattern syntax: unexpected ".toList ++ "end of pattern".toList := by
    decide +kernel
  have lists := congrArg String.toList same
  rw [String.toList_append, split] at lists
  rw [List.append_cancel_left lists] at other
  exact other rfl

/-- A quoted text begins with a quote. -/
theorem head?_quoted (text : String) : (Text.quoted text).toList.head? ≠ some 'e' := by
  rw [Text.quoted, String.toList_ofList]
  intro same
  have first : Text.quoteFor text.toList = 'e' := Option.some.inj same
  unfold Text.quoteFor at first
  split at first <;> exact absurd first (by decide)

theorem message_unexpectedToken (spelling : List Char) (pattern : String) (place : Location) :
    ((Fault.unexpectedToken spelling).error pattern place).message =
      "invalid pattern syntax: unexpected " ++ Text.quoted (String.ofList spelling) := by
  have joined : "invalid pattern syntax: unexpected " = "invalid pattern syntax: " ++ "unexpected " := by
    simp only [String.reduceAppend]
  rw [joined, String.append_assoc]
  rfl

theorem message_strayCharacter (c : Char) (pattern : String) (place : Location) :
    ((Fault.strayCharacter c).error pattern place).message =
      "invalid pattern syntax: unexpected character " ++ Text.quoted (String.singleton c) := by
  have joined : "invalid pattern syntax: unexpected character " = "invalid pattern syntax: " ++ "unexpected character " := by
    simp only [String.reduceAppend]
  rw [joined, String.append_assoc]
  rfl

theorem message_strayCharacter_eq (c : Char) (pattern : String) (place : Location) :
    ((Fault.strayCharacter c).error pattern place).message =
      "invalid pattern syntax: unexpected " ++ ("character " ++ Text.quoted (String.singleton c)) := by
  have joined : "invalid pattern syntax: unexpected character " = "invalid pattern syntax: unexpected " ++ "character " := by
    simp only [String.reduceAppend]
  rw [message_strayCharacter, joined, String.append_assoc]

theorem message_strayCharacter_ne (c : Char) (pattern : String) (place : Location) :
    ((Fault.strayCharacter c).error pattern place).message ≠ endMessage := by
  rw [message_strayCharacter_eq]
  refine ne_endMessage ?_
  rw [String.toList_append]
  exact ne_of_beq_false rfl

namespace Source

variable {source : Source}

theorem refusal_token {token : Token} (known : token.isStray = false) (column : Nat) :
    source.refusal (.lexeme ⟨token, column⟩) = (.unexpectedToken token.spelling, source.point column) := by
  cases token with
  | stray c => cases known
  | _ => rfl

/-- Whatever is wrong with the form of a text, something is unexpected. -/
theorem message_refusal (source : Source) (refusal : Refusal) (pattern : String) (place : Location) :
    ((source.refusal refusal).1.error pattern place).code = "E0001" ∧ ∃ what,
      ((source.refusal refusal).1.error pattern place).message = "invalid pattern syntax: unexpected " ++ what := by
  cases refusal with
  | tooShort =>
    have joined : "invalid pattern syntax: " ++ "unexpected end of pattern" =
        "invalid pattern syntax: unexpected " ++ "end of pattern" := by simp only [String.reduceAppend]
    exact ⟨rfl, "end of pattern", joined⟩
  | lexeme lexeme =>
    obtain ⟨token, column⟩ := lexeme
    cases stray : token.isStray with
    | false =>
      rw [refusal_token stray]
      exact ⟨rfl, _, message_unexpectedToken token.spelling pattern place⟩
    | true =>
      cases token with
      | stray c => exact ⟨rfl, _, message_strayCharacter_eq c pattern place⟩
      | _ => cases stray

/-- The error tells where the source stops being a pattern. -/
structure Locates (source : Source) (error : PatternError) (column : Nat) : Prop where
  code : error.code = "E0001"
  pattern : error.pattern = source.pattern
  place : error.location = some (source.point column)
  /-- what stands before the column can be completed -/
  viable : ∃ valid, IsSyntactic valid ∧ source.pattern.toList.take (column - 1) <+: valid
  /-- the whole text can be completed -/
  atEnd : error.message = endMessage → column = source.pattern.length + 1
  inside : error.message ≠ endMessage → 1 ≤ column ∧ column ≤ source.pattern.length
  /-- the token at the column is shown, or the character if no token begins there -/
  shown : error.message ≠ endMessage →
    (∃ token : Token, token.Begins (source.pattern.toList.drop (column - 1)) ∧
      error.message = "invalid pattern syntax: unexpected " ++ Text.quoted (String.ofList token.spelling)) ∨
    ∃ c, source.pattern.toList[column - 1]? = some c ∧
      (∀ token : Token, ¬token.Begins (source.pattern.toList.drop (column - 1))) ∧
      error.message = "invalid pattern syntax: unexpected character " ++ Text.quoted (String.singleton c)
  /-- with the character at the column it cannot be completed, unless this is a quote -/
  stuck : error.message ≠ endMessage → source.pattern.toList[column - 1]? ≠ some '"' →
    source.pattern.toList[column - 1]? ≠ some '\'' →
    ∀ valid, IsSyntactic valid → ¬source.pattern.toList.take column <+: valid

theorem locates_end {next : Reading} (advanced : Reading.start.advance (scan source.pattern.toList) = some next)
    (known : ∀ lexeme ∈ scan source.pattern.toList, lexeme.token.isStray = false) :
    source.Locates (Fault.unexpectedEnd.error source.pattern (source.point (source.pattern.length + 1)))
      (source.pattern.length + 1) where
  code := rfl
  pattern := rfl
  place := rfl
  viable := by
    obtain ⟨rendered, spelled⟩ := rendered_of_scanFrom known
    obtain ⟨more, valid⟩ := exists_isSyntactic_append rendered spelled advanced
    exact ⟨_, valid, (List.take_prefix _ _).trans (List.prefix_append _ _)⟩
  atEnd _ := rfl
  inside other := absurd rfl other
  shown other := absurd rfl other
  stuck other := absurd rfl other

section Cut

variable {before : List Lexeme} {head rest : List Char} {c : Char} {next : Reading}
  (text : source.pattern.toList = head ++ c :: rest) (cut : CutAt false 1 before head c)
  (advanced : Reading.start.advance before = some next)

include text cut advanced

theorem viable_of_cutAt : ∃ valid, IsSyntactic valid ∧ source.pattern.toList.take head.length <+: valid := by
  obtain ⟨more, valid⟩ := exists_isSyntactic_append cut.rendered cut.spelled advanced
  refine ⟨_, valid, ?_⟩
  rw [text, List.take_left]
  exact List.prefix_append _ _

theorem stuck_of_cutAt {column : Nat} (stuck : next.step ⟨Token.starting (announced false before) c rest, column⟩ = none)
    (noQuote : ¬(c = '"' ∨ c = '\'')) :
    ∀ valid, IsSyntactic valid → ¬source.pattern.toList.take (head.length + 1) <+: valid := by
  rintro valid isValid ⟨other, rfl⟩
  have kept : source.pattern.toList.take (head.length + 1) ++ other = head ++ c :: other := by
    rw [text, List.take_length_add_append]
    simp
  rw [kept] at isValid
  exact not_isSyntactic_of_cutAt cut advanced stuck noQuote other isValid

theorem locates_lexeme (oneLine : '\n' ∉ source.pattern.toList)
    (stuck : next.step ⟨Token.starting (announced false before) c rest, columnPast 1 head⟩ = none) :
    let refused := source.refusal (.lexeme ⟨Token.starting (announced false before) c rest, columnPast 1 head⟩)
    source.Locates (refused.1.error source.pattern refused.2) (head.length + 1) := by
  intro refused
  have column : columnPast 1 head = head.length + 1 := by
    rw [text, List.mem_append, not_or] at oneLine
    rw [columnPast_of_oneLine oneLine.1, Nat.add_comm]
  have inside : 1 ≤ head.length + 1 ∧ head.length + 1 ≤ source.pattern.length := by
    have length : source.pattern.length = (head ++ c :: rest).length := by rw [← text, String.length_toList]
    rw [List.length_append, List.length_cons] at length
    omega
  have after : source.pattern.toList.drop (head.length + 1 - 1) = c :: rest := by
    rw [text, Nat.add_sub_cancel, List.drop_left]
  have here : source.pattern.toList[head.length + 1 - 1]? = some c := by
    rw [← List.head?_drop, after, List.head?_cons]
  have noWay : source.pattern.toList[head.length + 1 - 1]? ≠ some '"' →
      source.pattern.toList[head.length + 1 - 1]? ≠ some '\'' →
      ∀ valid, IsSyntactic valid → ¬source.pattern.toList.take (head.length + 1) <+: valid := by
    rw [here]
    intro noDouble noSingle
    refine stuck_of_cutAt text cut advanced stuck ?_
    rintro (rfl | rfl)
    · exact noDouble rfl
    · exact noSingle rfl
  have viable := viable_of_cutAt text cut advanced
  cases stray : (Token.starting (announced false before) c rest).isStray with
  | false =>
    have same : refused = (.unexpectedToken (Token.starting (announced false before) c rest).spelling,
      source.point (head.length + 1)) := by rw [← column, ← refusal_token stray]
    have message := message_unexpectedToken (Token.starting (announced false before) c rest).spelling source.pattern
      (source.point (head.length + 1))
    have notEnd := ne_endMessage (head?_quoted (String.ofList (Token.starting (announced false before) c rest).spelling))
    rw [same]
    refine ⟨rfl, rfl, rfl, viable, fun ends => absurd (message.symm.trans ends) notEnd, fun _ => inside, fun _ => .inl ?_,
      fun _ => noWay⟩
    rw [after]
    exact ⟨_, begins_starting rfl stray, message⟩
  | true =>
    have found := starting_eq_stray stray
    have same : refused = (.strayCharacter c, source.point (head.length + 1)) := by
      rw [← column]
      simp only [refused, found]
      rfl
    have message := message_strayCharacter c source.pattern (source.point (head.length + 1))
    have notEnd := message_strayCharacter_ne c source.pattern (source.point (head.length + 1))
    rw [same]
    refine ⟨rfl, rfl, rfl, viable, fun ends => absurd ends notEnd, fun _ => inside, fun _ => .inr ⟨c, here, ?_, message⟩,
      fun _ => noWay⟩
    rw [after]
    exact not_begins_of_stray found

end Cut

end Source

/-- The error of a refusal tells where the text stops being a pattern. -/
theorem Source.exists_locates {source : Source} (oneLine : '\n' ∉ source.pattern.toList) {refusal : Refusal}
    (read : marks source.pattern.toList = .error refusal) :
    ∃ column, source.Locates ((source.refusal refusal).1.error source.pattern (source.refusal refusal).2) column := by
  obtain ⟨before, lexeme, after, next, rfl, scanned, advanced, stuck⟩ | ⟨rfl, next, advanced⟩ :=
    Reading.exists_advance_of_refused read
  · obtain ⟨head, c, rest, text, cut⟩ := exists_cutAt scanned
    rw [scan, text] at scanned
    obtain rfl := cut.lexeme_eq scanned
    exact ⟨_, Source.locates_lexeme text cut advanced oneLine stuck⟩
  · have known := Reading.isStray_eq_false_of_advance advanced
    exact ⟨_, Source.locates_end advanced known⟩

/-- A text of one line without the form of a pattern is refused where it stops being one. -/
theorem locates_parse [Limits] (source : Source) (oneLine : '\n' ∉ source.pattern.toList)
    (invalid : ¬IsSyntactic source.pattern.toList) :
    ∃ error column, parse source = .error (.rejected error) ∧ source.Locates error column := by
  cases read : marks source.pattern.toList with
  | ok found => exact absurd (isSyntactic_iff.2 ⟨found, read⟩) invalid
  | error refusal =>
    have failed : parse source = source.reject (source.refusal refusal).1 (source.refusal refusal).2 := by rw [parse, read]
    obtain ⟨column, locates⟩ := Source.exists_locates oneLine read
    exact ⟨_, column, failed, locates⟩

/-- A range whose second number is a letter, after a group. -/
def letteredSource : Source := ⟨"('a' | <b>)* 'c'\x7b2,x\x7d", "example", 1⟩

section
open scoped Workstation

/-- The letter is in column 20. What stands before it can be completed to a pattern, and together with it it cannot. -/
theorem locates_parse_lettered : '\n' ∉ letteredSource.pattern.toList ∧ ¬IsSyntactic letteredSource.pattern.toList ∧
    ∃ error, parse letteredSource = .error (.rejected error) ∧ error.location = some (letteredSource.point 20) ∧
      error.message = "invalid pattern syntax: unexpected 'x'" ∧
      (∃ valid, IsSyntactic valid ∧ "('a' | <b>)* 'c'\x7b2,".toList <+: valid) ∧
      ∀ valid, IsSyntactic valid → ¬"('a' | <b>)* 'c'\x7b2,x".toList <+: valid := by
  have oneLine : '\n' ∉ letteredSource.pattern.toList := by decide
  have invalid : ¬IsSyntactic letteredSource.pattern.toList := by
    rw [isSyntactic_iff]
    rintro ⟨found, read⟩
    have refused : marks letteredSource.pattern.toList = .error (.lexeme ⟨.name ['x'], 20⟩) := by decide +kernel
    cases refused.symm.trans read
  have told : parse letteredSource = .error (.rejected
      ((Fault.unexpectedToken ['x']).error letteredSource.pattern (letteredSource.point 20))) := by decide +kernel
  obtain ⟨error, column, failed, locates⟩ := locates_parse letteredSource oneLine invalid
  obtain rfl : _ = error := ParseError.rejected.inj (Except.error.inj (told.symm.trans failed))
  have place : some (letteredSource.point 20) = some (letteredSource.point column) := locates.place
  obtain rfl : 20 = column := Int.ofNat.inj (congrArg Location.column (Option.some.inj place))
  have notEnd : ((Fault.unexpectedToken ['x']).error letteredSource.pattern (letteredSource.point 20)).message ≠
      endMessage := by decide +kernel
  have before : letteredSource.pattern.toList.take (20 - 1) = "('a' | <b>)* 'c'\x7b2,".toList := by decide +kernel
  have through : letteredSource.pattern.toList.take 20 = "('a' | <b>)* 'c'\x7b2,x".toList := by decide +kernel
  have here : letteredSource.pattern.toList[20 - 1]? = some 'x' := by decide +kernel
  have viable := locates.viable
  have stuck := locates.stuck notEnd (by simp [here]) (by simp [here])
  rw [before] at viable
  rw [through] at stuck
  exact ⟨oneLine, invalid, _, told, rfl, by decide +kernel, viable, stuck⟩

end

end Utterance.Pattern
