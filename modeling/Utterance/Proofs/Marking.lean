import Utterance.Proofs.Basic
import Utterance.Proofs.Written

/-!
# Marks and written patterns

Lexemes have marks exactly if their tokens are those of a written pattern, and the marks are then the marks of such a
pattern: `Reading.exists_written` reads the pattern off an accepting run, `Reading.accepts_written` runs along a
pattern.
-/

namespace Utterance.Pattern
set_option autoImplicit false

namespace Reading

/-- The lexemes may end after an item, outside of all groups. -/
theorem marks_nil_eq_ok {reading : Reading} {marks : List Mark} : reading.marks [] = .ok marks ↔
    (reading = ⟨.repetition, 0⟩ ∨ reading = ⟨.more, 0⟩) ∧ marks = [] := by
  have complete : reading.isComplete = true ↔ reading = ⟨.repetition, 0⟩ ∨ reading = ⟨.more, 0⟩ := by
    obtain ⟨expecting, depth⟩ := reading
    cases expecting <;> simp [isComplete]
  rw [Reading.marks, ← complete]
  split
  · rename_i complete
    rw [Except.ok.injEq, and_iff_right complete, eq_comm]
  · rename_i incomplete
    simp [incomplete]

theorem marks_cons_eq_ok {reading : Reading} {lexeme : Lexeme} {rest : List Lexeme} {marks : List Mark} :
    reading.marks (lexeme :: rest) = .ok marks ↔ ∃ next here more,
      reading.step lexeme = some (next, here) ∧ next.marks rest = .ok more ∧ marks = here ++ more := by
  rw [Reading.marks]
  cases reading.step lexeme with
  | none => simp
  | some result =>
    obtain ⟨next, here⟩ := result
    simp only [map_eq_ok_iff, Option.some.injEq, Prod.mk.injEq]
    constructor
    · rintro ⟨more, onward, rfl⟩
      exact ⟨next, here, more, ⟨rfl, rfl⟩, onward, rfl⟩
    · rintro ⟨_, _, more, ⟨rfl, rfl⟩, onward, rfl⟩
      exact ⟨more, onward, rfl⟩

theorem exists_step {reading : Reading} {lexemes : List Lexeme} {marks : List Mark}
    (incomplete : reading.isComplete = false) (accepted : reading.marks lexemes = .ok marks) :
    ∃ token column rest next here more, lexemes = ⟨token, column⟩ :: rest ∧
      reading.step ⟨token, column⟩ = some (next, here) ∧ next.marks rest = .ok more ∧ marks = here ++ more := by
  cases lexemes with
  | nil => simp [Reading.marks, incomplete] at accepted
  | cons lexeme rest =>
    obtain ⟨next, here, more, step, onward, rfl⟩ := marks_cons_eq_ok.1 accepted
    exact ⟨lexeme.token, lexeme.column, rest, next, here, more, rfl, step, onward, rfl⟩

/-! ## From runs to patterns -/

/-- The lexemes are first some that have these tokens and marks, and then some that are read on from `next`. -/
def Begins (next : Reading) (lexemes : List Lexeme) (marks : List Mark) (tokens : List Token) (here : List Mark) : Prop :=
  ∃ before after more, lexemes = before ++ after ∧ before.map Lexeme.token = tokens ∧ next.marks after = .ok more ∧
    marks = here ++ more

section Begins

variable {next : Reading} {lexemes : List Lexeme} {marks : List Mark} {tokens : List Token}

theorem Begins.nil (onward : next.marks lexemes = .ok marks) : next.Begins lexemes marks [] [] :=
  ⟨[], lexemes, marks, rfl, rfl, onward, rfl⟩

theorem Begins.append {more : List Mark} (before : List Lexeme) (here : List Mark)
    (begins : next.Begins lexemes more tokens marks) :
    next.Begins (before ++ lexemes) (here ++ more) (before.map Lexeme.token ++ tokens) (here ++ marks) := by
  obtain ⟨middle, after, others, rfl, rfl, onward, rfl⟩ := begins
  exact ⟨before ++ middle, after, others, by simp, by simp, onward, by simp⟩

end Begins

section Inversion

variable {depth : Nat} {lexemes : List Lexeme} {marks : List Mark}

theorem least_eq_ok (accepted : Reading.marks ⟨.least, depth⟩ lexemes = .ok marks) : ∃ least rest,
    lexemes = ⟨.numeral least.digits, least.column⟩ :: rest ∧ Reading.marks ⟨.leastEnd least, depth⟩ rest = .ok marks := by
  obtain ⟨token, column, rest, next, here, more, rfl, step, onward, rfl⟩ := exists_step (by simp [isComplete]) accepted
  cases token with
  | numeral digits =>
    cases step
    exact ⟨⟨digits, column⟩, rest, rfl, onward⟩
  | _ => cases step

theorem leastEnd_eq_ok {least : Numeral} (accepted : Reading.marks ⟨.leastEnd least, depth⟩ lexemes = .ok marks) :
    ∃ column rest, (lexemes = ⟨.comma, column⟩ :: rest ∧ Reading.marks ⟨.most least, depth⟩ rest = .ok marks) ∨
      lexemes = ⟨.closeCount, column⟩ :: rest ∧ ∃ more, Reading.marks ⟨.more, depth⟩ rest = .ok more ∧
        marks = .exactly least :: more := by
  obtain ⟨token, column, rest, next, here, more, rfl, step, onward, rfl⟩ := exists_step (by simp [isComplete]) accepted
  cases token with
  | comma =>
    cases step
    exact ⟨column, rest, .inl ⟨rfl, onward⟩⟩
  | closeCount =>
    cases step
    exact ⟨column, rest, .inr ⟨rfl, more, onward, rfl⟩⟩
  | _ => cases step

theorem most_eq_ok {least : Numeral} (accepted : Reading.marks ⟨.most least, depth⟩ lexemes = .ok marks) :
    ∃ most rest, lexemes = ⟨.numeral most.digits, most.column⟩ :: rest ∧
      Reading.marks ⟨.mostEnd least most, depth⟩ rest = .ok marks := by
  obtain ⟨token, column, rest, next, here, more, rfl, step, onward, rfl⟩ := exists_step (by simp [isComplete]) accepted
  cases token with
  | numeral digits =>
    cases step
    exact ⟨⟨digits, column⟩, rest, rfl, onward⟩
  | _ => cases step

theorem mostEnd_eq_ok {least most : Numeral}
    (accepted : Reading.marks ⟨.mostEnd least most, depth⟩ lexemes = .ok marks) :
    ∃ column rest more, lexemes = ⟨.closeCount, column⟩ :: rest ∧ Reading.marks ⟨.more, depth⟩ rest = .ok more ∧
      marks = .range least most :: more := by
  obtain ⟨token, column, rest, next, here, more, rfl, step, onward, rfl⟩ := exists_step (by simp [isComplete]) accepted
  cases token with
  | closeCount =>
    cases step
    exact ⟨column, rest, more, rfl, onward, rfl⟩
  | _ => cases step

theorem name_eq_ok (accepted : Reading.marks ⟨.name, depth⟩ lexemes = .ok marks) : ∃ name column rest,
    lexemes = ⟨.name name, column⟩ :: rest ∧ Reading.marks ⟨.nameEnd name column, depth⟩ rest = .ok marks := by
  obtain ⟨token, column, rest, next, here, more, rfl, step, onward, rfl⟩ := exists_step (by simp [isComplete]) accepted
  cases token with
  | name text =>
    cases step
    exact ⟨text, column, rest, rfl, onward⟩
  | _ => cases step

theorem nameEnd_eq_ok {name : List Char} {start : Nat}
    (accepted : Reading.marks ⟨.nameEnd name start, depth⟩ lexemes = .ok marks) :
    ∃ column rest more, lexemes = ⟨.closeName, column⟩ :: rest ∧ Reading.marks ⟨.repetition, depth⟩ rest = .ok more ∧
      marks = .symbol name start :: more := by
  obtain ⟨token, column, rest, next, here, more, rfl, step, onward, rfl⟩ := exists_step (by simp [isComplete]) accepted
  cases token with
  | closeName =>
    cases step
    exact ⟨column, rest, more, rfl, onward, rfl⟩
  | _ => cases step

end Inversion

/-- A run after an item begins with the repeat of the item, if it has one. -/
theorem exists_repeat {depth : Nat} {lexemes : List Lexeme} {marks : List Mark}
    (accepted : Reading.marks ⟨.repetition, depth⟩ lexemes = .ok marks) : ∃ repeated : Option WrittenRepeat,
      Begins ⟨.more, depth⟩ lexemes marks (tokenScript.repeat? repeated) (markScript.repeat? repeated) := by
  cases lexemes with
  | nil =>
    have same : Reading.marks ⟨.more, depth⟩ [] = Reading.marks ⟨.repetition, depth⟩ [] := by
      simp [Reading.marks, isComplete]
    exact ⟨none, .nil (same.trans accepted)⟩
  | cons lexeme rest =>
    obtain ⟨next, here, more, step, onward, rfl⟩ := marks_cons_eq_ok.1 accepted
    obtain ⟨token, column⟩ := lexeme
    cases token with
    | plus =>
      cases step
      exact ⟨some .oneOrMore, .append [⟨.plus, column⟩] [.oneOrMore] (.nil onward)⟩
    | star =>
      cases step
      exact ⟨some .zeroOrMore, .append [⟨.star, column⟩] [.zeroOrMore] (.nil onward)⟩
    | question =>
      cases step
      exact ⟨some .optional, .append [⟨.question, column⟩] [.optional] (.nil onward)⟩
    | openCount =>
      cases step
      obtain ⟨least, afterLeast, rfl, atEnd⟩ := least_eq_ok onward
      obtain ⟨second, afterEnd, ⟨rfl, atMost⟩ | ⟨rfl, others, beyond, rfl⟩⟩ := leastEnd_eq_ok atEnd
      · obtain ⟨most, afterMost, rfl, atLast⟩ := most_eq_ok atMost
        obtain ⟨last, afterLast, others, rfl, beyond, rfl⟩ := mostEnd_eq_ok atLast
        exact ⟨some (.range least most), .append [⟨.openCount, column⟩, ⟨.numeral least.digits, least.column⟩,
          ⟨.comma, second⟩, ⟨.numeral most.digits, most.column⟩, ⟨.closeCount, last⟩] [.range least most] (.nil beyond)⟩
      · exact ⟨some (.exactly least), .append [⟨.openCount, column⟩, ⟨.numeral least.digits, least.column⟩,
          ⟨.closeCount, second⟩] [.exactly least] (.nil beyond)⟩
    | _ => exact ⟨none, .nil (marks_cons_eq_ok.2 ⟨next, here, more, step, onward, rfl⟩)⟩

/-- The lexemes end, or a bar or the end of a group comes next. -/
def EndsPhrase (lexemes : List Lexeme) : Prop :=
  ∀ lexeme ∈ lexemes.head?, lexeme.token = .bar ∨ lexeme.token = .closeGroup

/-- What follows an item ends the phrase or is read as its next item. -/
theorem endsPhrase_or_item {depth : Nat} {lexemes : List Lexeme} {marks : List Mark}
    (accepted : Reading.marks ⟨.more, depth⟩ lexemes = .ok marks) :
    EndsPhrase lexemes ∨ Reading.marks ⟨.item, depth⟩ lexemes = .ok marks := by
  cases lexemes with
  | nil => exact .inl (by simp [EndsPhrase])
  | cons lexeme rest =>
    obtain ⟨next, here, more, step, onward, rfl⟩ := marks_cons_eq_ok.1 accepted
    obtain ⟨token, column⟩ := lexeme
    cases token with
    | bar => exact .inl (by simp [EndsPhrase])
    | closeGroup => exact .inl (by simp [EndsPhrase])
    | _ => exact .inr (marks_cons_eq_ok.2 ⟨next, here, more, step, onward, rfl⟩)

/-- In a group, a phrase is followed by a bar or by the end of the group. -/
theorem endsPhrase_eq_ok {depth : Nat} {lexemes : List Lexeme} {marks : List Mark}
    (accepted : Reading.marks ⟨.more, depth + 1⟩ lexemes = .ok marks) (ends : EndsPhrase lexemes) :
    ∃ column rest more, (lexemes = ⟨.bar, column⟩ :: rest ∧ Reading.marks ⟨.item, depth + 1⟩ rest = .ok more ∧
        marks = .bar :: more) ∨
      lexemes = ⟨.closeGroup, column⟩ :: rest ∧ Reading.marks ⟨.repetition, depth⟩ rest = .ok more ∧
        marks = .closeGroup :: more := by
  obtain ⟨token, column, rest, next, here, more, rfl, step, onward, rfl⟩ := exists_step (by simp [isComplete]) accepted
  obtain same | same := ends _ rfl
  · cases same
    cases step
    exact ⟨column, rest, more, .inl ⟨rfl, onward, rfl⟩⟩
  · cases same
    cases step
    exact ⟨column, rest, more, .inr ⟨rfl, onward, rfl⟩⟩

/-- The lexemes begin with a phrase that ends there. -/
def BeginsPhrase (depth : Nat) (lexemes : List Lexeme) (marks : List Mark) : Prop :=
  ∃ phrase : Phrase WrittenAtom Nat WrittenRepeat, ∃ before after more, lexemes = before ++ after ∧
    before.map Lexeme.token = phrase.write tokenScript ∧ Reading.marks ⟨.more, depth⟩ after = .ok more ∧
    marks = phrase.write markScript ++ more ∧ EndsPhrase after

/-- The lexemes begin with the alternatives and the end of a group. -/
def BeginsChoice (depth : Nat) (lexemes : List Lexeme) (marks : List Mark) : Prop :=
  ∃ choice : Choice WrittenAtom Nat WrittenRepeat, Begins ⟨.repetition, depth⟩ lexemes marks
    (choice.write tokenScript ++ [.closeGroup]) (choice.write markScript ++ [.closeGroup])

theorem exists_choice {size : Nat} (phrases : ∀ {depth : Nat} {lexemes : List Lexeme} {marks : List Mark},
      lexemes.length < size → Reading.marks ⟨.item, depth⟩ lexemes = .ok marks → BeginsPhrase depth lexemes marks)
    {depth : Nat} {lexemes : List Lexeme} {marks : List Mark} (shorter : lexemes.length < size)
    (accepted : Reading.marks ⟨.item, depth + 1⟩ lexemes = .ok marks) : BeginsChoice depth lexemes marks := by
  induction length : lexemes.length using Nat.strongRecOn generalizing lexemes marks with
  | ind length ih =>
    subst length
    obtain ⟨phrase, before, after, more, rfl, tokens, onward, rfl, ends⟩ := phrases shorter accepted
    obtain ⟨column, rest, others, ⟨rfl, beyond, rfl⟩ | ⟨rfl, beyond, rfl⟩⟩ := endsPhrase_eq_ok onward ends
    · have fewer : rest.length < (before ++ ⟨.bar, column⟩ :: rest).length := by
        simp only [List.length_append, List.length_cons]
        omega
      obtain ⟨choice, begins⟩ := ih rest.length fewer (fewer.trans shorter) beyond rfl
      refine ⟨.cons phrase choice, ?_⟩
      have whole := begins.append (before ++ [⟨.bar, column⟩]) (phrase.write markScript ++ [.bar])
      simpa [Choice.write, tokens] using whole
    · refine ⟨.last phrase, ?_⟩
      have whole := (Begins.nil beyond).append (before ++ [⟨.closeGroup, column⟩])
        (phrase.write markScript ++ [.closeGroup])
      simpa [Choice.write, tokens] using whole

theorem exists_item {size : Nat} (choices : ∀ {depth : Nat} {lexemes : List Lexeme} {marks : List Mark},
      lexemes.length < size → Reading.marks ⟨.item, depth + 1⟩ lexemes = .ok marks → BeginsChoice depth lexemes marks)
    {depth : Nat} {lexemes : List Lexeme} {marks : List Mark} (fits : lexemes.length ≤ size)
    (accepted : Reading.marks ⟨.item, depth⟩ lexemes = .ok marks) : ∃ item : Item WrittenAtom Nat WrittenRepeat,
      Begins ⟨.more, depth⟩ lexemes marks (item.write tokenScript) (item.write markScript) := by
  obtain ⟨token, column, rest, next, here, more, rfl, step, onward, rfl⟩ := exists_step (by simp [isComplete]) accepted
  cases token with
  | literal spelling =>
    cases step
    obtain ⟨repeated, begins⟩ := exists_repeat onward
    exact ⟨.atom (.literal spelling column) repeated, begins.append [⟨.literal spelling, column⟩] [.literal spelling column]⟩
  | openName =>
    cases step
    obtain ⟨name, start, afterName, rfl, atEnd⟩ := name_eq_ok onward
    obtain ⟨last, afterEnd, others, rfl, beyond, rfl⟩ := nameEnd_eq_ok atEnd
    obtain ⟨repeated, begins⟩ := exists_repeat beyond
    exact ⟨.atom (.symbol name start) repeated,
      begins.append [⟨.openName, column⟩, ⟨.name name, start⟩, ⟨.closeName, last⟩] [.symbol name start]⟩
  | openGroup =>
    cases step
    obtain ⟨choice, before, after, others, rfl, tokens, beyond, rfl⟩ := choices fits onward
    obtain ⟨repeated, begins⟩ := exists_repeat beyond
    refine ⟨.group column choice repeated, ?_⟩
    have whole := begins.append (⟨.openGroup, column⟩ :: before)
      (.openGroup column :: (choice.write markScript ++ [.closeGroup]))
    simpa [Item.write, tokens] using whole
  | _ => cases step

theorem exists_phrase {depth : Nat} {lexemes : List Lexeme} {marks : List Mark}
    (accepted : Reading.marks ⟨.item, depth⟩ lexemes = .ok marks) : BeginsPhrase depth lexemes marks := by
  -- Groups are read with the phrases of all shorter runs, which is what the induction on the length gives.
  induction length : lexemes.length using Nat.strongRecOn generalizing depth lexemes marks with
  | ind length ih =>
    subst length
    obtain ⟨item, before, after, more, rfl, tokens, onward, rfl⟩ :=
      exists_item (exists_choice fun shorter accepted => ih _ shorter accepted rfl) (Nat.le_refl _) accepted
    obtain ends | goesOn := endsPhrase_or_item onward
    · exact ⟨.last item, before, after, more, rfl, tokens, onward, rfl, ends⟩
    · have fewer : after.length < (before ++ after).length := by
        obtain ⟨token, others, same, _⟩ := item.exists_tokens
        have nonempty : 0 < before.length := by
          rw [← List.length_map (f := Lexeme.token), tokens, same]
          simp
        rw [List.length_append]
        omega
      obtain ⟨phrase, middle, last, others, rfl, moreTokens, beyond, rfl, ends⟩ := ih _ fewer goesOn rfl
      exact ⟨.cons item phrase, before ++ middle, last, others, by simp, by simp [Phrase.write, tokens, moreTokens], beyond,
        by simp [Phrase.write], ends⟩

/-- Lexemes with marks are those of a written pattern. -/
theorem exists_written {lexemes : List Lexeme} {marks : List Mark} (accepted : start.marks lexemes = .ok marks) :
    ∃ written : Written, written.write tokenScript = lexemes.map Lexeme.token ∧ written.write markScript = marks := by
  obtain ⟨phrase, before, after, more, rfl, tokens, onward, rfl, ends⟩ := exists_phrase accepted
  cases after with
  | nil =>
    cases onward
    exact ⟨phrase, by simp [tokens], by simp⟩
  | cons lexeme rest =>
    obtain ⟨next, here, others, step, _, _⟩ := marks_cons_eq_ok.1 onward
    obtain ⟨token, column⟩ := lexeme
    obtain same | same := ends _ rfl
    · cases same
      cases step
    · cases same
      cases step

/-! ## From patterns to runs -/

/-- The lexemes have marks. -/
def Accepts (reading : Reading) (lexemes : List Lexeme) : Prop :=
  ∃ marks, reading.marks lexemes = .ok marks

section Accepts

variable {depth : Nat} {before after : List Lexeme}

theorem accepts_cons {reading next : Reading} {lexeme : Lexeme} {here : List Mark}
    (step : reading.step lexeme = some (next, here)) (accepts : next.Accepts after) :
    reading.Accepts (lexeme :: after) := by
  obtain ⟨more, onward⟩ := accepts
  exact ⟨here ++ more, marks_cons_eq_ok.2 ⟨next, here, more, step, onward, rfl⟩⟩

theorem accepts_more_of_item (accepts : Accepts ⟨.item, depth⟩ after) : Accepts ⟨.more, depth⟩ after := by
  obtain ⟨marks, accepted⟩ := accepts
  obtain ⟨token, column, rest, next, here, more, rfl, step, onward, rfl⟩ := exists_step (by simp [isComplete]) accepted
  have same : Reading.step ⟨.more, depth⟩ ⟨token, column⟩ = some (next, here) := by
    cases token with
    | bar => cases step
    | closeGroup => cases step
    | _ => exact step
  exact accepts_cons same ⟨more, onward⟩

theorem accepts_repetition_of_more (accepts : Accepts ⟨.more, depth⟩ after) : Accepts ⟨.repetition, depth⟩ after := by
  obtain ⟨marks, accepted⟩ := accepts
  cases after with
  | nil => exact ⟨marks, by simpa [Reading.marks, isComplete] using accepted⟩
  | cons lexeme rest =>
    obtain ⟨next, here, more, step, onward, rfl⟩ := marks_cons_eq_ok.1 accepted
    have same : Reading.step ⟨.repetition, depth⟩ lexeme = some (next, here) := by
      obtain ⟨token, column⟩ := lexeme
      cases token with
      | plus => cases step
      | star => cases step
      | question => cases step
      | openCount => cases step
      | _ => exact step
    exact accepts_cons same ⟨more, onward⟩

/-- One token is read, in whichever column it stands. -/
theorem accepts_token {reading : Reading} {token : Token} {tokens : List Token}
    (split : before.map Lexeme.token = token :: tokens)
    (onward : ∀ column rest, rest.map Lexeme.token = tokens → ∃ next here,
      reading.step ⟨token, column⟩ = some (next, here) ∧ next.Accepts (rest ++ after)) :
    reading.Accepts (before ++ after) := by
  obtain ⟨⟨_, column⟩, rest, rfl, rfl, others⟩ := List.map_eq_cons_iff.1 split
  obtain ⟨next, here, step, accepts⟩ := onward column rest others
  exact accepts_cons step accepts

theorem accepts_nil {reading : Reading} (nothing : before.map Lexeme.token = []) (accepts : reading.Accepts after) :
    reading.Accepts (before ++ after) := by
  rwa [List.map_eq_nil_iff.1 nothing, List.nil_append]

theorem accepts_atom {atom : WrittenAtom} (tokens : before.map Lexeme.token = atom.tokens)
    (accepts : Accepts ⟨.repetition, depth⟩ after) : Accepts ⟨.item, depth⟩ (before ++ after) := by
  cases atom with
  | literal spelling column =>
    exact accepts_token tokens fun start rest nothing => ⟨_, _, rfl, accepts_nil nothing accepts⟩
  | symbol name column =>
    refine accepts_token tokens fun start rest tokens => ⟨_, _, rfl, ?_⟩
    refine accepts_token tokens fun start rest tokens => ⟨_, _, rfl, ?_⟩
    exact accepts_token tokens fun start rest nothing => ⟨_, _, rfl, accepts_nil nothing accepts⟩

theorem accepts_repeat {repeated : Option WrittenRepeat} (tokens : before.map Lexeme.token = tokenScript.repeat? repeated)
    (accepts : Accepts ⟨.more, depth⟩ after) : Accepts ⟨.repetition, depth⟩ (before ++ after) := by
  cases repeated with
  | none => exact accepts_nil tokens (accepts_repetition_of_more accepts)
  | some r =>
    cases r with
    | range least most =>
      refine accepts_token tokens fun start rest tokens => ⟨_, _, rfl, ?_⟩
      refine accepts_token tokens fun start rest tokens => ⟨_, _, rfl, ?_⟩
      refine accepts_token tokens fun start rest tokens => ⟨_, _, rfl, ?_⟩
      refine accepts_token tokens fun start rest tokens => ⟨_, _, rfl, ?_⟩
      exact accepts_token tokens fun start rest nothing => ⟨_, _, rfl, accepts_nil nothing accepts⟩
    | exactly count =>
      refine accepts_token tokens fun start rest tokens => ⟨_, _, rfl, ?_⟩
      refine accepts_token tokens fun start rest tokens => ⟨_, _, rfl, ?_⟩
      exact accepts_token tokens fun start rest nothing => ⟨_, _, rfl, accepts_nil nothing accepts⟩
    | _ => exact accepts_token tokens fun start rest nothing => ⟨_, _, rfl, accepts_nil nothing accepts⟩

mutual

theorem accepts_item : (item : Item WrittenAtom Nat WrittenRepeat) → {depth : Nat} → {before after : List Lexeme} →
    before.map Lexeme.token = item.write tokenScript → Accepts ⟨.more, depth⟩ after →
    Accepts ⟨.item, depth⟩ (before ++ after)
  | .atom content repeated, depth, _, after, tokens, accepts => by
    obtain ⟨first, second, rfl, isAtom, isRepeat⟩ := List.map_eq_append_iff.1 tokens
    rw [List.append_assoc]
    exact accepts_atom isAtom (accepts_repeat isRepeat accepts)
  | .group label inner repeated, depth, _, after, tokens, accepts => by
    refine accepts_token tokens fun start rest tokens => ⟨_, _, rfl, ?_⟩
    obtain ⟨first, second, rfl, isChoice, tokens⟩ := List.map_eq_append_iff.1 tokens
    rw [List.append_assoc]
    refine accepts_choice inner isChoice ?_
    exact accepts_token tokens fun start rest isRepeat => ⟨_, _, rfl, accepts_repeat isRepeat accepts⟩

theorem accepts_phrase : (phrase : Phrase WrittenAtom Nat WrittenRepeat) → {depth : Nat} →
    {before after : List Lexeme} → before.map Lexeme.token = phrase.write tokenScript → Accepts ⟨.more, depth⟩ after →
    Accepts ⟨.item, depth⟩ (before ++ after)
  | .last item, _, _, _, tokens, accepts => accepts_item item tokens accepts
  | .cons item rest, _, _, _, tokens, accepts => by
    obtain ⟨first, second, rfl, isItem, isRest⟩ := List.map_eq_append_iff.1 tokens
    rw [List.append_assoc]
    exact accepts_item item isItem (accepts_more_of_item (accepts_phrase rest isRest accepts))

theorem accepts_choice : (choice : Choice WrittenAtom Nat WrittenRepeat) → {depth : Nat} →
    {before after : List Lexeme} → before.map Lexeme.token = choice.write tokenScript →
    Accepts ⟨.more, depth + 1⟩ after → Accepts ⟨.item, depth + 1⟩ (before ++ after)
  | .last phrase, _, _, _, tokens, accepts => accepts_phrase phrase tokens accepts
  | .cons phrase rest, _, _, _, tokens, accepts => by
    obtain ⟨first, second, rfl, isPhrase, tokens⟩ := List.map_eq_append_iff.1 tokens
    rw [List.append_assoc]
    refine accepts_phrase phrase isPhrase ?_
    exact accepts_token tokens fun start others isRest => ⟨_, _, rfl, accepts_choice rest isRest accepts⟩

end

/-- The lexemes of a written pattern have marks. -/
theorem accepts_written {written : Written} {lexemes : List Lexeme}
    (tokens : written.write tokenScript = lexemes.map Lexeme.token) : start.Accepts lexemes := by
  have complete : Accepts ⟨.more, 0⟩ [] := ⟨[], rfl⟩
  have accepts := accepts_phrase written tokens.symm complete
  rwa [List.append_nil] at accepts

end Accepts

end Reading

end Utterance.Pattern
