import Utterance.Proofs.Parsing
import Utterance.Proofs.Places
import Utterance.Proofs.ViablePrefix

/-!
# What is wrong with a pattern

A text that has the form of a pattern is refused exactly if it has an empty literal, a numeral with more digits than can
be converted, a range that ends below its start, or a group inside of too many others, and it is refused for the
leftmost of these (`parse_leftmost`). The form is looked at first.
-/

namespace Utterance.Pattern
set_option autoImplicit false

/-! ## Lexemes -/

variable {source : Source}

/-- How many groups are open after one more token. -/
def Token.depthAfter (depth : Nat) : Token → Nat
  | .openGroup => depth + 1
  | .closeGroup => depth - 1
  | _ => depth

/-- How many groups are open after the tokens. -/
def groupsOpen (tokens : List Token) : Nat := tokens.foldl Token.depthAfter 0

/-- What is wrong with a token in a column, inside of `depth` groups, where others follow. A range is looked at from its
first numeral, and only if both its numerals can be converted. -/
def offence? [Limits] (source : Source) (depth column : Nat) : Token → List Token → Option ParseError
  | .literal spelling, _ =>
    if (literalText spelling).isEmpty then
      some (.rejected (Fault.emptyLiteral.error source.pattern (source.span column spelling.length)))
    else none
  | .numeral digits, after =>
    if digitLimit < digits.length then some (.oversizedNumeral digits.length)
    else
      match after with
      | .comma :: .numeral high :: _ =>
        if high.length ≤ digitLimit ∧ digitsValue high < digitsValue digits then
          some (.rejected ((Fault.emptyRange (digitsValue digits) (digitsValue high)).error source.pattern
            (source.span column digits.length)))
        else none
      | _ => none
  | .openGroup, _ => if depth < Limits.nesting then none else some .tooDeep
  | _, _ => none

/-- What is wrong with the first lexeme with which something is wrong, inside of `depth` groups. -/
def firstOffence? [Limits] (source : Source) : (depth : Nat) → List Lexeme → Option ParseError
  | _, [] => none
  | depth, lexeme :: rest =>
    (offence? source depth lexeme.column lexeme.token (rest.map Lexeme.token)).or
      (firstOffence? source (lexeme.token.depthAfter depth) rest)

theorem firstOffence?_eq_some_iff [Limits] {depth : Nat} {lexemes : List Lexeme} {error : ParseError} :
    firstOffence? source depth lexemes = some error ↔ ∃ before lexeme after, lexemes = before ++ lexeme :: after ∧
      offence? source ((before.map Lexeme.token).foldl Token.depthAfter depth) lexeme.column lexeme.token
        (after.map Lexeme.token) = some error ∧
      ∀ first other last, before = first ++ other :: last →
        offence? source ((first.map Lexeme.token).foldl Token.depthAfter depth) other.column other.token
          ((last ++ lexeme :: after).map Lexeme.token) = none := by
  induction lexemes generalizing depth with
  | nil => simp [firstOffence?]
  | cons lexeme rest ih =>
    rw [firstOffence?, Option.or_eq_some_iff, ih]
    constructor
    · rintro (here | ⟨fine, before, other, after, rfl, later, first⟩)
      · refine ⟨[], lexeme, rest, rfl, here, ?_⟩
        intro first other last impossible
        simp at impossible
      · refine ⟨lexeme :: before, other, after, rfl, later, ?_⟩
        intro start earlier last split
        cases start with
        | nil =>
          obtain ⟨rfl, rfl⟩ := List.cons.inj split
          exact fine
        | cons skipped start =>
          obtain ⟨rfl, rfl⟩ := List.cons.inj split
          exact first start earlier last rfl
    · rintro ⟨before, other, after, split, wrong, first⟩
      cases before with
      | nil =>
        obtain ⟨rfl, rfl⟩ := List.cons.inj split
        exact .inl wrong
      | cons skipped before =>
        obtain ⟨rfl, rfl⟩ := List.cons.inj split
        refine .inr ⟨first [] lexeme before rfl, before, other, after, rfl, wrong, ?_⟩
        rintro start earlier last rfl
        exact first (lexeme :: start) earlier last rfl

/-! ## Marks -/

/-- What is wrong with a mark inside of `depth` groups. -/
def Mark.refused? [Limits] (source : Source) (depth : Nat) (mark : Mark) : Option ParseError :=
  match mark.step source depth with
  | .error error => some error
  | .ok _ => none

/-- What is wrong with the first mark with which something is wrong, inside of `depth` groups. -/
def firstRefused? [Limits] (source : Source) : (depth : Nat) → List Mark → Option ParseError
  | _, [] => none
  | depth, mark :: rest => (mark.refused? source depth).or (firstRefused? source (mark.depthAfter depth) rest)

theorem firstRefused?_append [Limits] {depth : Nat} (marks more : List Mark) :
    firstRefused? source depth (marks ++ more) =
      (firstRefused? source depth marks).or (firstRefused? source (marks.foldl Mark.depthAfter depth) more) := by
  induction marks generalizing depth with
  | nil => rfl
  | cons mark rest ih =>
    rw [List.cons_append, firstRefused?, firstRefused?, ih, Option.or_assoc]
    rfl

theorem buildSteps_eq_error_iff [Limits] {depth : Nat} {marks : List Mark} {error : ParseError} :
    buildSteps source depth marks = .error error ↔ firstRefused? source depth marks = some error := by
  induction marks generalizing depth with
  | nil => simp [buildSteps, firstRefused?]
  | cons mark rest ih =>
    rw [firstRefused?, Mark.refused?]
    cases stepped : mark.step source depth with
    | error cause =>
      have failed : buildSteps source depth (mark :: rest) = .error cause :=
        bind_eq_error_iff.2 (.inl stepped)
      rw [failed]
      simp
    | ok step =>
      simp only [Option.none_or, ← ih]
      constructor
      · intro failed
        rw [buildSteps, bind_eq_error_iff] at failed
        obtain impossible | ⟨_, _, failed⟩ := failed
        · cases stepped.symm.trans impossible
        · obtain failed | ⟨_, _, impossible⟩ := bind_eq_error_iff.1 failed
          · exact failed
          · cases impossible
      · intro failed
        exact bind_eq_error_iff.2 (.inr ⟨step, stepped, bind_eq_error_iff.2 (.inl failed)⟩)

theorem Numeral.value_eq_error_iff {numeral : Numeral} {error : ParseError} :
    numeral.value = .error error ↔
      digitLimit < numeral.digits.length ∧ error = .oversizedNumeral numeral.digits.length := by
  unfold Numeral.value
  split
  · rename_i short
    simp only [reduceCtorEq, false_iff, not_and]
    intro long
    omega
  · rename_i long
    simp [Nat.lt_of_not_le long, eq_comm]

theorem Numeral.value_of_long {numeral : Numeral} (long : digitLimit < numeral.digits.length) :
    numeral.value = .error (.oversizedNumeral numeral.digits.length) :=
  value_eq_error_iff.2 ⟨long, rfl⟩

theorem Numeral.value_of_short {numeral : Numeral} (short : ¬digitLimit < numeral.digits.length) :
    numeral.value = .ok (digitsValue numeral.digits) :=
  if_pos (Nat.le_of_not_lt short)

section Marks

variable [Limits] (depth : Nat)

theorem refused?_openGroup (column : Nat) (after : List Token) :
    (Mark.openGroup column).refused? source depth = offence? source depth column .openGroup after := by
  by_cases room : depth < Limits.nesting <;> simp [Mark.refused?, Mark.step, offence?, room]

theorem refused?_literal (spelling : List Char) (column : Nat) (after : List Token) :
    (Mark.literal spelling column).refused? source depth = offence? source depth column (.literal spelling) after := by
  cases empty : (literalText spelling).isEmpty <;> simp [Mark.refused?, Mark.step, offence?, Source.reject, empty]

theorem refused?_exactly (count : Numeral) (after : List Token) :
    (Mark.exactly count).refused? source depth =
      offence? source depth count.column (.numeral count.digits) (.closeCount :: after) := by
  by_cases long : digitLimit < count.digits.length
  · simp [Mark.refused?, Mark.step, offence?, Numeral.value_of_long long, long, Except.map]
  · simp [Mark.refused?, Mark.step, offence?, Numeral.value_of_short long, long, Except.map]

/-- A range is wrong for its first numeral, or as a whole, or else for its second numeral. -/
theorem refused?_range (least most : Numeral) (after : List Token) :
    (Mark.range least most).refused? source depth =
      (offence? source depth least.column (.numeral least.digits)
        (.comma :: .numeral most.digits :: .closeCount :: after)).or
        (offence? source depth most.column (.numeral most.digits) (.closeCount :: after)) := by
  by_cases long : digitLimit < least.digits.length
  · simp [Mark.refused?, Mark.step, offence?, Numeral.value_of_long long, long, bind, Except.bind]
  · by_cases longToo : digitLimit < most.digits.length
    · have notShort : ¬most.digits.length ≤ digitLimit := Nat.not_le.2 longToo
      simp [Mark.refused?, Mark.step, offence?, Numeral.value_of_short long, Numeral.value_of_long longToo, long, longToo,
        notShort, bind, Except.bind]
    · have short : most.digits.length ≤ digitLimit := Nat.le_of_not_lt longToo
      by_cases inverted : digitsValue most.digits < digitsValue least.digits
      · simp [Mark.refused?, Mark.step, offence?, Numeral.value_of_short long, Numeral.value_of_short longToo, long, short,
          inverted, Source.reject, bind, Except.bind]
      · simp [Mark.refused?, Mark.step, offence?, Numeral.value_of_short long, Numeral.value_of_short longToo, long, longToo,
          inverted, bind, Except.bind, pure, Except.pure]

end Marks

/-! ## Readings -/

namespace Reading

/-- The numerals that were read and are not yet part of a mark, with the comma between them. -/
def pending (reading : Reading) : List Lexeme :=
  match reading.expecting with
  | .leastEnd least => [⟨.numeral least.digits, least.column⟩]
  | .most least => [⟨.numeral least.digits, least.column⟩, ⟨.comma, 0⟩]
  | .mostEnd least most =>
    [⟨.numeral least.digits, least.column⟩, ⟨.comma, 0⟩, ⟨.numeral most.digits, most.column⟩]
  | _ => []

/-- The lexeme is wrong as the marks are that it completes, and leads out of and into as many groups. -/
def Agrees [Limits] (source : Source) (depth : Nat) (before : List Lexeme) (lexeme : Lexeme) (next : Reading)
    (here : List Mark) : Prop :=
  here.foldl Mark.depthAfter depth = next.depth ∧ ∀ rest, firstOffence? source depth (before ++ lexeme :: rest) =
    (firstRefused? source depth here).or (firstOffence? source next.depth (next.pending ++ rest))

variable [Limits] {depth : Nat} {lexeme : Lexeme} {next : Reading} {here : List Mark}

theorem firstRefused?_singleton (mark : Mark) : firstRefused? source depth [mark] = mark.refused? source depth :=
  Option.or_none

theorem agrees_startItem (step : startItem depth lexeme = some (next, here)) :
    Agrees source depth [] lexeme next here := by
  obtain ⟨token, column⟩ := lexeme
  cases token with
  | openGroup =>
    cases step
    refine ⟨rfl, fun rest => ?_⟩
    rw [firstRefused?_singleton, refused?_openGroup depth column (rest.map Lexeme.token)]
    rfl
  | literal spelling =>
    cases step
    refine ⟨rfl, fun rest => ?_⟩
    rw [firstRefused?_singleton, refused?_literal depth spelling column (rest.map Lexeme.token)]
    rfl
  | openName =>
    cases step
    exact ⟨rfl, fun rest => rfl⟩
  | _ => cases step

theorem agrees_followItem (step : followItem depth lexeme = some (next, here)) :
    Agrees source depth [] lexeme next here := by
  obtain ⟨token, column⟩ := lexeme
  cases token with
  | bar =>
    cases depth with
    | zero => cases step
    | succ depth =>
      cases step
      exact ⟨rfl, fun rest => rfl⟩
  | closeGroup =>
    cases depth with
    | zero => cases step
    | succ depth =>
      cases step
      exact ⟨rfl, fun rest => rfl⟩
  | _ => exact agrees_startItem step

theorem agrees_repeatItem (step : repeatItem depth lexeme = some (next, here)) :
    Agrees source depth [] lexeme next here := by
  obtain ⟨token, column⟩ := lexeme
  cases token with
  | plus =>
    cases step
    exact ⟨rfl, fun rest => rfl⟩
  | star =>
    cases step
    exact ⟨rfl, fun rest => rfl⟩
  | question =>
    cases step
    exact ⟨rfl, fun rest => rfl⟩
  | openCount =>
    cases step
    exact ⟨rfl, fun rest => rfl⟩
  | _ => exact agrees_followItem step

/-- A step loses nothing that is wrong and adds nothing to it. -/
theorem agrees_step {reading : Reading} (step : reading.step lexeme = some (next, here)) :
    Agrees source reading.depth reading.pending lexeme next here := by
  obtain ⟨expecting, depth⟩ := reading
  obtain ⟨token, column⟩ := lexeme
  cases expecting with
  | item => exact agrees_startItem step
  | repetition => exact agrees_repeatItem step
  | more => exact agrees_followItem step
  | name =>
    cases token with
    | name text =>
      cases step
      exact ⟨rfl, fun rest => rfl⟩
    | _ => cases step
  | nameEnd name start =>
    cases token with
    | closeName =>
      cases step
      exact ⟨rfl, fun rest => rfl⟩
    | _ => cases step
  | least =>
    cases token with
    | numeral digits =>
      cases step
      exact ⟨rfl, fun rest => rfl⟩
    | _ => cases step
  | leastEnd least =>
    cases token with
    | comma =>
      cases step
      exact ⟨rfl, fun rest => rfl⟩
    | closeCount =>
      cases step
      refine ⟨rfl, fun rest => ?_⟩
      rw [firstRefused?_singleton, refused?_exactly depth least (rest.map Lexeme.token)]
      rfl
    | _ => cases step
  | most least =>
    cases token with
    | numeral digits =>
      cases step
      exact ⟨rfl, fun rest => rfl⟩
    | _ => cases step
  | mostEnd least most =>
    cases token with
    | closeCount =>
      cases step
      refine ⟨rfl, fun rest => ?_⟩
      rw [firstRefused?_singleton, refused?_range depth least most (rest.map Lexeme.token), Option.or_assoc]
      rfl
    | _ => cases step

/-- What is wrong with the marks of lexemes is what is wrong with the lexemes, the leftmost first. -/
theorem firstRefused?_eq_firstOffence? {reading : Reading} {lexemes : List Lexeme} {marks : List Mark}
    (read : reading.marks lexemes = .ok marks) :
    firstRefused? source reading.depth marks = firstOffence? source reading.depth (reading.pending ++ lexemes) := by
  induction lexemes generalizing reading marks with
  | nil =>
    obtain ⟨rfl | rfl, rfl⟩ := marks_nil_eq_ok.1 read
    · rfl
    · rfl
  | cons lexeme rest ih =>
    obtain ⟨next, here, more, step, onward, rfl⟩ := marks_cons_eq_ok.1 read
    obtain ⟨depth, agrees⟩ := @agrees_step source _ _ _ _ _ step
    rw [firstRefused?_append, depth, ih onward, agrees rest]

end Reading

/-- A text with the form of a pattern is refused for the first lexeme with which something is wrong. -/
theorem parse_eq_error_iff_first [Limits] {marks : List Mark} (read : Pattern.marks source.pattern.toList = .ok marks)
    {error : ParseError} :
    parse source = .error error ↔ firstOffence? source 0 (scan source.pattern.toList) = some error := by
  have same : firstRefused? source 0 marks = firstOffence? source 0 (scan source.pattern.toList) :=
    Reading.firstRefused?_eq_firstOffence? read
  rw [← same, ← buildSteps_eq_error_iff, parse_eq_error_iff]
  simp [read]

/-! ## Offences -/

/-- What is wrong with a token in a column, where other tokens stand before it and after it. -/
inductive Offence [Limits] (source : Source) (before : List Token) (column : Nat) : Token → List Token → ParseError →
    Prop where
  /-- a literal has no text -/
  | emptyLiteral {spelling : List Char} {after : List Token} (empty : IsLiteral spelling []) :
      Offence source before column (.literal spelling) after (.rejected
        { message := "invalid pattern syntax: empty string literal"
          pattern := source.pattern
          location := some (source.span column spelling.length)
          code := "E0001"
          label := some "literal has no text" })
  /-- a numeral has more digits than can be converted -/
  | oversized {digits : List Char} {after : List Token} (long : digitLimit < digits.length) :
      Offence source before column (.numeral digits) after (.oversizedNumeral digits.length)
  /-- a range ends below its start, and both its numerals can be converted -/
  | emptyRange {low high : List Char} {after : List Token} {least most : Nat} (isLeast : IsNumeral low least)
      (isMost : IsNumeral high most) (short : low.length ≤ digitLimit) (shortToo : high.length ≤ digitLimit)
      (inverted : most < least) :
      Offence source before column (.numeral low) (.comma :: .numeral high :: after) (.rejected
        { message :=
            "invalid pattern syntax: repeat range \x7b" ++ toString least ++ "," ++ toString most ++ "\x7d is empty"
          pattern := source.pattern
          location := some (source.span column low.length)
          code := "E0002"
          help := some "write the smaller count first" })
  /-- a group is inside of as many others as there is room for -/
  | tooDeep {after : List Token} (deep : Limits.nesting ≤ groupsOpen before) :
      Offence source before column .openGroup after .tooDeep

/-- The text has an empty literal, a numeral with more digits than can be converted, a range that ends below its start,
or a group inside of as many others as there is room for. -/
def HasOffence [Limits] (text : List Char) : Prop :=
  ∃ before head token after, Stands text before head token after ∧
    ((∃ spelling, token = .literal spelling ∧ IsLiteral spelling []) ∨
      (∃ digits, token = .numeral digits ∧ digitLimit < digits.length) ∨
      (∃ low high least most rest, token = .numeral low ∧ after = .comma :: .numeral high :: rest ∧
        IsNumeral low least ∧ IsNumeral high most ∧ most < least) ∨
      token = .openGroup ∧ Limits.nesting ≤ groupsOpen before)

theorem append_range (start opening low comma high closing : String) :
    start ++ (opening ++ low ++ comma ++ high ++ closing) = start ++ opening ++ low ++ comma ++ high ++ closing := by
  simp only [String.append_assoc]

theorem message_emptyRange (least most : Nat) :
    "invalid pattern syntax: " ++ (Fault.emptyRange least most).reason =
      "invalid pattern syntax: repeat range \x7b" ++ toString least ++ "," ++ toString most ++ "\x7d is empty" := by
  have joined : "invalid pattern syntax: " ++ "repeat range \x7b" = "invalid pattern syntax: repeat range \x7b" := by
    simp only [String.reduceAppend]
  have split := append_range "invalid pattern syntax: " "repeat range \x7b" (toString least) "," (toString most)
    "\x7d is empty"
  exact split.trans (congrArg (fun opening => opening ++ toString least ++ "," ++ toString most ++ "\x7d is empty") joined)

theorem error_emptyRange (least most : Nat) (pattern : String) (place : Location) :
    (Fault.emptyRange least most).error pattern place =
      { message :=
          "invalid pattern syntax: repeat range \x7b" ++ toString least ++ "," ++ toString most ++ "\x7d is empty"
        pattern, location := some place, code := "E0002", help := some "write the smaller count first" } :=
  congrArg (fun message => PatternError.mk message pattern (some place) "E0002" (some "write the smaller count first") none)
    (message_emptyRange least most)

theorem error_emptyLiteral (pattern : String) (place : Location) :
    Fault.emptyLiteral.error pattern place =
      { message := "invalid pattern syntax: empty string literal"
        pattern, location := some place, code := "E0001", label := some "literal has no text" } := by
  have joined : "invalid pattern syntax: " ++ "empty string literal" = "invalid pattern syntax: empty string literal" := by
    simp only [String.reduceAppend]
  exact congrArg (fun message => PatternError.mk message pattern (some place) "E0001" none (some "literal has no text"))
    joined

theorem IsNumeral.digitsValue_eq {digits : List Char} {number : Nat} (isNumeral : IsNumeral digits number) :
    digitsValue digits = number := by
  rw [Pattern.digitsValue_eq]
  exact isNumeral.2.2

section Offence

variable [Limits] {before : List Token} {column : Nat} {error : ParseError}

theorem offence_of_offence? {token : Token} {after : List Token} (spelled : ∀ part ∈ token :: after, part.IsSpelled)
    (wrong : offence? source (groupsOpen before) column token after = some error) :
    Offence source before column token after error := by
  cases token with
  | literal spelling =>
    obtain ⟨text, literal⟩ : (Token.literal spelling).IsSpelled := spelled _ (List.mem_cons_self ..)
    simp only [offence?] at wrong
    split at wrong
    · rename_i empty
      obtain rfl : text = [] := by rwa [literal.literalText_eq, List.isEmpty_iff] at empty
      rw [error_emptyLiteral] at wrong
      cases wrong
      exact .emptyLiteral literal
    · cases wrong
  | numeral digits =>
    have isLow : (Token.numeral digits).IsSpelled := spelled _ (List.mem_cons_self ..)
    simp only [offence?] at wrong
    split at wrong
    · rename_i long
      cases wrong
      exact .oversized long
    · rename_i short
      split at wrong
      · rename_i high rest
        have isHigh : (Token.numeral high).IsSpelled := spelled _ (by simp)
        split at wrong
        · rename_i inverted
          rw [error_emptyRange] at wrong
          cases wrong
          exact .emptyRange (isNumeral_digitsValue.2 isLow) (isNumeral_digitsValue.2 isHigh) (Nat.le_of_not_lt short)
            inverted.1 inverted.2
        · cases wrong
      · cases wrong
  | openGroup =>
    simp only [offence?] at wrong
    split at wrong
    · cases wrong
    · rename_i noRoom
      cases wrong
      exact .tooDeep (Nat.le_of_not_lt noRoom)
  | _ => cases wrong

theorem Offence.offence?_eq {token : Token} {after : List Token}
    (offence : Offence source before column token after error) :
    offence? source (groupsOpen before) column token after = some error := by
  cases offence with
  | emptyLiteral empty => simp [offence?, empty.literalText_eq, error_emptyLiteral]
  | oversized long => simp [offence?, long]
  | emptyRange isLeast isMost short shortToo inverted =>
    have fits := Nat.not_lt.2 short
    simp [offence?, isLeast.digitsValue_eq, isMost.digitsValue_eq, fits, shortToo, inverted, error_emptyRange]
  | tooDeep deep => simp [offence?, Nat.not_lt.2 deep]

end Offence

/-- Where a token stands, something is wrong with it exactly if it is an offence. -/
theorem Stands.offence?_eq_some_iff [Limits] {text head : List Char} {before after : List Token} {token : Token}
    {column : Nat} {error : ParseError} (stands : Stands text before head token after) :
    offence? source (groupsOpen before) column token after = some error ↔
      Offence source before column token after error :=
  ⟨offence_of_offence? fun part member => stands.spelled part (List.mem_append_right _ member), Offence.offence?_eq⟩

/-! ## The leftmost offence -/

section Leftmost

variable [Limits]

theorem exists_firstOffence? {depth : Nat} {first last : List Lexeme} {lexeme : Lexeme} {error : ParseError}
    (wrong : offence? source ((first.map Lexeme.token).foldl Token.depthAfter depth) lexeme.column lexeme.token
      (last.map Lexeme.token) = some error) :
    ∃ leftmost, firstOffence? source depth (first ++ lexeme :: last) = some leftmost := by
  induction first generalizing depth with
  | nil =>
    have here : offence? source depth lexeme.column lexeme.token (last.map Lexeme.token) = some error := wrong
    refine ⟨error, ?_⟩
    rw [List.nil_append, firstOffence?, here]
    rfl
  | cons skipped first ih =>
    obtain ⟨leftmost, found⟩ := ih wrong
    rw [List.cons_append, firstOffence?, found]
    cases offence? source depth skipped.column skipped.token ((first ++ lexeme :: last).map Lexeme.token) with
    | none => exact ⟨leftmost, rfl⟩
    | some here => exact ⟨here, rfl⟩

/-- The error tells the offence that stands furthest to the left. -/
def IsLeftmost (source : Source) (error : ParseError) : Prop :=
  ∃ before head token after, Stands source.pattern.toList before head token after ∧
    Offence source before (columnPast 1 head) token after error ∧
    ∀ beforeToo headToo tokenToo afterToo errorToo, Stands source.pattern.toList beforeToo headToo tokenToo afterToo →
      Offence source beforeToo (columnPast 1 headToo) tokenToo afterToo errorToo → head.length ≤ headToo.length

theorem isLeftmost_of_firstOffence? {error : ParseError} (valid : IsSyntactic source.pattern.toList)
    (found : firstOffence? source 0 (scan source.pattern.toList) = some error) : IsLeftmost source error := by
  obtain ⟨first, lexeme, last, scanned, wrong, none⟩ := firstOffence?_eq_some_iff.1 found
  obtain ⟨head, stands, column⟩ := exists_stands valid scanned
  rw [column] at wrong
  refine ⟨_, head, _, _, stands, stands.offence?_eq_some_iff.1 wrong, ?_⟩
  intro beforeToo headToo tokenToo afterToo errorToo standsToo offence
  obtain ⟨firstToo, lastToo, scannedToo, rfl, rfl⟩ := standsToo.exists_scan
  have notFewer : first.length ≤ firstToo.length := by
    by_contra fewer
    obtain ⟨middle, rfl, rfl⟩ := exists_middle (scannedToo.symm.trans scanned) (Nat.lt_of_not_le fewer)
    cases (none firstToo _ middle rfl).symm.trans offence.offence?_eq
  obtain same | more := Nat.eq_or_lt_of_le notFewer
  · obtain ⟨_, rfl, _⟩ := stands.eq_of_length_eq standsToo (by rw [List.length_map, List.length_map, same])
    exact Nat.le_refl _
  · have further := stands.length_lt standsToo (by rw [List.length_map, List.length_map]; exact more)
    exact Nat.le_of_lt further

theorem firstOffence?_of_isLeftmost {error : ParseError} (valid : IsSyntactic source.pattern.toList)
    (leftmost : IsLeftmost source error) : firstOffence? source 0 (scan source.pattern.toList) = some error := by
  obtain ⟨before, head, token, after, stands, offence, least⟩ := leftmost
  obtain ⟨other, found⟩ : ∃ other, firstOffence? source 0 (scan source.pattern.toList) = some other := by
    obtain ⟨first, last, scanned, rfl, rfl⟩ := stands.exists_scan
    rw [scanned]
    exact exists_firstOffence? offence.offence?_eq
  -- both stand furthest to the left, so they stand at the same place
  obtain ⟨beforeToo, headToo, tokenToo, afterToo, standsToo, offenceToo, leastToo⟩ := isLeftmost_of_firstOffence? valid found
  have notBefore := least _ _ _ _ _ standsToo offenceToo
  have notAfter := leastToo _ _ _ _ _ stands offence
  have same : before.length = beforeToo.length := by
    obtain fewer | same | more := Nat.lt_trichotomy before.length beforeToo.length
    · have := stands.length_lt standsToo fewer
      omega
    · exact same
    · have := standsToo.length_lt stands more
      omega
  obtain ⟨rfl, rfl, rfl, rfl⟩ := stands.eq_of_length_eq standsToo same
  rw [found, ← offenceToo.offence?_eq, offence.offence?_eq]

/-- A text with the form of a pattern that has an offence has a leftmost one. -/
theorem exists_firstOffence?_iff (valid : IsSyntactic source.pattern.toList) :
    (∃ error, firstOffence? source 0 (scan source.pattern.toList) = some error) ↔ HasOffence source.pattern.toList := by
  constructor
  · rintro ⟨error, found⟩
    obtain ⟨before, head, token, after, stands, offence, _⟩ := isLeftmost_of_firstOffence? valid found
    refine ⟨before, head, token, after, stands, ?_⟩
    cases offence with
    | emptyLiteral empty => exact .inl ⟨_, rfl, empty⟩
    | oversized long => exact .inr (.inl ⟨_, rfl, long⟩)
    | emptyRange isLeast isMost short shortToo inverted =>
      exact .inr (.inr (.inl ⟨_, _, _, _, _, rfl, rfl, isLeast, isMost, inverted⟩))
    | tooDeep deep => exact .inr (.inr (.inr ⟨rfl, deep⟩))
  · rintro ⟨before, head, token, after, stands, wrong⟩
    obtain ⟨first, last, scanned, rfl, rfl⟩ := stands.exists_scan
    rw [scanned]
    obtain ⟨spelling, rfl, empty⟩ | ⟨digits, rfl, long⟩ |
      ⟨low, high, least, most, rest, rfl, tokens, isLeast, isMost, inverted⟩ | ⟨rfl, deep⟩ := wrong
    · exact exists_firstOffence? (Offence.emptyLiteral empty).offence?_eq
    · exact exists_firstOffence? (Offence.oversized long).offence?_eq
    · by_cases long : digitLimit < low.length
      · exact exists_firstOffence? (Offence.oversized long).offence?_eq
      · by_cases longToo : digitLimit < high.length
        · obtain ⟨comma, others, rfl, _, listed⟩ := List.map_eq_cons_iff.1 tokens
          obtain ⟨numeral, later, rfl, isHigh, _⟩ := List.map_eq_cons_iff.1 listed
          have wrong : ∀ depth, offence? source depth numeral.column numeral.token (later.map Lexeme.token) =
              some (.oversizedNumeral high.length) := by
            intro depth
            rw [isHigh]
            simp [offence?, longToo]
          have found := @exists_firstOffence? source _ 0 (first ++ [⟨.numeral low, columnPast 1 head⟩, comma]) later numeral _
            (wrong _)
          rwa [List.append_assoc] at found
        · have offence : Offence source (first.map Lexeme.token) (columnPast 1 head) (.numeral low)
              (.comma :: .numeral high :: rest) _ :=
            .emptyRange isLeast isMost (Nat.le_of_not_lt long) (Nat.le_of_not_lt longToo) inverted
          rw [← tokens] at offence
          exact exists_firstOffence? offence.offence?_eq
    · exact exists_firstOffence? (Offence.tooDeep deep).offence?_eq

end Leftmost

/-- What is wrong with the form of a text is told first. If the form is right, the text is refused exactly if it has an
offence, and it is the leftmost one that is told. -/
theorem parse_leftmost [Limits] (source : Source) :
    (¬IsSyntactic source.pattern.toList → ∃ error what, parse source = .error (.rejected error) ∧ error.code = "E0001" ∧
      error.message = "invalid pattern syntax: unexpected " ++ what) ∧
    (IsSyntactic source.pattern.toList →
      ((∃ error, parse source = .error error) ↔ HasOffence source.pattern.toList) ∧
      ∀ error, parse source = .error error ↔ IsLeftmost source error) := by
  constructor
  · intro invalid
    cases read : marks source.pattern.toList with
    | ok found => exact absurd (isSyntactic_iff.2 ⟨found, read⟩) invalid
    | error refusal =>
      have failed : parse source = source.reject (source.refusal refusal).1 (source.refusal refusal).2 := by rw [parse, read]
      obtain ⟨code, what, message⟩ := source.message_refusal refusal source.pattern (source.refusal refusal).2
      exact ⟨_, what, failed, code, message⟩
  · intro valid
    obtain ⟨found, read⟩ := isSyntactic_iff.1 valid
    constructor
    · rw [← exists_firstOffence?_iff valid]
      exact exists_congr fun error => parse_eq_error_iff_first read
    · intro error
      rw [parse_eq_error_iff_first read]
      exact ⟨isLeftmost_of_firstOffence? valid, firstOffence?_of_isLeftmost valid⟩

/-- A range that is inverted, on a group that has an empty literal in it. -/
def nestedOffences : Source := ⟨"(<b> | '')\x7b3,2\x7d ''", "example", 1⟩

section
open scoped Workstation

/-- The literal in the group is told, and not the range of the group, although this is nearer to the root of the
pattern. -/
theorem parse_leftmost_nested : IsSyntactic nestedOffences.pattern.toList ∧
    ∃ error, IsLeftmost nestedOffences (.rejected error) ∧ error.code = "E0001" ∧
      error.location = some (nestedOffences.span 8 2) := by
  have valid : IsSyntactic nestedOffences.pattern.toList := by
    have accepted : (marks nestedOffences.pattern.toList).isOk = true := by decide +kernel
    exact isSyntactic_iff.2 (exists_of_isOk accepted)
  have failed : parse nestedOffences = .error (.rejected
      (Fault.emptyLiteral.error nestedOffences.pattern (nestedOffences.span 8 2))) := by decide +kernel
  exact ⟨valid, _, (((parse_leftmost nestedOffences).2 valid).2 _).1 failed, rfl, rfl⟩

/-- An empty literal inside of one group more than there is room for. -/
def deepOffence : Source :=
  ⟨String.ofList (List.replicate 98 '(' ++ ("''".toList ++ List.replicate 98 ')')), "example", 1⟩

/-- The text has the form of a pattern and an empty literal in it, but the walk does not get as far as the literal. -/
theorem parse_deepOffence : IsSyntactic deepOffence.pattern.toList ∧
    ⟨.literal "''".toList, 99⟩ ∈ scan deepOffence.pattern.toList ∧ parse deepOffence = .error .tooDeep := by
  have characters : deepOffence.pattern.toList = List.replicate 98 '(' ++ ("''".toList ++ List.replicate 98 ')') :=
    String.toList_ofList
  have accepted : (marks deepOffence.pattern.toList).isOk = true := by
    rw [characters]
    decide +kernel
  refine ⟨isSyntactic_iff.2 (exists_of_isOk accepted), ?_, ?_⟩
  · rw [characters]
    decide +kernel
  · rw [parse, characters]
    decide +kernel

end

end Utterance.Pattern
