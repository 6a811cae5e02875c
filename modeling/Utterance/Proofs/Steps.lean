import Utterance.PatternFile
import Utterance.Proofs.Basic

/-!
# Steps of a session

A step changes a session bit by bit, and where it fails what it changed before remains. But adding a pattern and adding
a symbol fail only before their first change, and resetting does not fail (`Operation.exists_does`). So an operation
that fails leaves the session as it was (`after_of_error`).
-/

namespace Utterance
set_option autoImplicit false

/-- What can be done to a session. -/
inductive Operation where
  | add (source : Pattern.Source)
  | addSymbol (name : Scalar) (values : SymbolValues)
  | reset

namespace Session

/-- The session that a step leads to, if it does not fail. -/
def Step.outcome (step : Step Unit) (session : Session) : Except Failure Session :=
  match step.run session with
  | .ok () next => .ok next
  | .error failure _ => .error failure

/-- The session that a step leaves behind, whether it fails or not. -/
def Step.left (step : Step Unit) (session : Session) : Session :=
  match step.run session with
  | .ok () next => next
  | .error _ left => left

/-- The step leads to the session that is given. Where none is given it fails, and changes nothing. -/
def Step.Does (step : Step Unit) (effect : Session → Except Failure Session) : Prop :=
  ∀ session, step.run session =
    match effect session with
    | .ok next => .ok () next
    | .error failure => .error failure session

/-- The session after a pattern is added. -/
def add [Limits] (transliterate : Transliterator) (session : Session) (source : Pattern.Source) :
    Except Failure Session :=
  (Step.add transliterate source).outcome session

/-- The session after a symbol is given values. -/
def addSymbol (transliterate : Transliterator) (session : Session) (name : Scalar) (values : SymbolValues) :
    Except Failure Session :=
  (Step.addSymbol transliterate name values).outcome session

/-- The session after a reset. -/
def reset (session : Session) : Session := Step.reset.left session

/-- A session and what a pattern was lowered to. -/
def append (session : Session) (lowered : Lowered) : Session where
  grammar := session.grammar ++ lowered.grammar
  vocabulary := session.vocabulary ++ lowered.vocabulary
  nextNumber := lowered.nextNumber

end Session

namespace Session

theorem Step.run_ofExcept_bind {α : Type} (result : Except Failure α) (next : α → Step Unit) (session : Session) :
    (MonadExcept.ofExcept result >>= next : Step Unit).run session =
      match result with
      | .ok a => (next a).run session
      | .error failure => .error failure session := by
  cases result <;> rfl

section Does

variable {step : Step Unit} {effect : Session → Except Failure Session} {session next : Session} {failure : Failure}

namespace Step.Does

theorem outcome_eq (does : step.Does effect) (session : Session) : step.outcome session = effect session := by
  rw [outcome, does session]
  cases effect session <;> rfl

theorem run_of_ok (does : step.Does effect) (done : step.outcome session = .ok next) :
    step.run session = .ok () next := by
  rw [does session, ← does.outcome_eq, done]

/-- A step that fails leaves the session as it was. -/
theorem run_of_error (does : step.Does effect) (failed : step.outcome session = .error failure) :
    step.run session = .error failure session := by
  rw [does session, ← does.outcome_eq, failed]

end Step.Does

end Does

/-! ## Adding patterns and symbols -/

section Add

variable (transliterate : Transliterator) (session : Session)

/-- A pattern is parsed and lowered before anything is appended. -/
theorem does_add [Limits] (source : Pattern.Source) : (Step.add transliterate source).Does fun session => do
    let table ← parse source
    let lowered ← (table.lower transliterate session.nextNumber).mapError Failure.ofLowering
    return session.append lowered := by
  intro session
  rw [Step.add, Step.run_ofExcept_bind]
  cases parse source with
  | error failure => rfl
  | ok table =>
    -- the number is read from the session before the items are lowered
    refine (Step.run_ofExcept_bind _ _ session).trans ?_
    simp only [Bind.bind, Except.bind]
    cases (table.lower transliterate session.nextNumber).mapError Failure.ofLowering <;> rfl

/-- All values of a symbol are transliterated before its section is appended. -/
theorem does_addSymbol (name : Scalar) (values : SymbolValues) :
    (Step.addSymbol transliterate name values).Does fun session => do
      let block ← symbolSection transliterate name values
      return { session with vocabulary := session.vocabulary ++ [block] } := by
  intro session
  rw [Step.addSymbol, Step.run_ofExcept_bind]
  cases symbolSection transliterate name values <;> rfl

theorem add_eq [Limits] (source : Pattern.Source) : session.add transliterate source = (do
    let table ← parse source
    let lowered ← (table.lower transliterate session.nextNumber).mapError Failure.ofLowering
    return session.append lowered) :=
  (does_add transliterate source).outcome_eq session

theorem addSymbol_eq (name : Scalar) (values : SymbolValues) : session.addSymbol transliterate name values = (do
    let block ← symbolSection transliterate name values
    return { session with vocabulary := session.vocabulary ++ [block] }) :=
  (does_addSymbol transliterate name values).outcome_eq session

theorem reset_eq : session.reset = { nextNumber := session.nextNumber } := rfl

end Add

end Session

/-! ## Operations -/

/-- The step that an operation is. -/
def Operation.step [Limits] (transliterate : Transliterator) : Operation → Session.Step Unit
  | .add source => .add transliterate source
  | .addSymbol name values => .addSymbol transliterate name values
  | .reset => .reset

/-- All failures of an operation come before the first change that it makes. -/
theorem Operation.exists_does [Limits] (transliterate : Transliterator) (operation : Operation) :
    ∃ effect, (operation.step transliterate).Does effect := by
  cases operation with
  | add source => exact ⟨_, Session.does_add transliterate source⟩
  | addSymbol name values => exact ⟨_, Session.does_addSymbol transliterate name values⟩
  | reset => exact ⟨fun session => .ok session.reset, fun _ => rfl⟩

namespace Session

variable [Limits] {transliterate : Transliterator} {session next : Session} {operation : Operation} {failure : Failure}

/-- The session that an operation leads to, if it does not fail. -/
def perform (transliterate : Transliterator) (session : Session) (operation : Operation) : Except Failure Session :=
  (operation.step transliterate).outcome session

/-- The session that an operation leaves behind, whether it fails or not. -/
def after (transliterate : Transliterator) (session : Session) (operation : Operation) : Session :=
  (operation.step transliterate).left session

theorem perform_add (source : Pattern.Source) :
    session.perform transliterate (.add source) = session.add transliterate source :=
  rfl

theorem perform_addSymbol (name : Scalar) (values : SymbolValues) :
    session.perform transliterate (.addSymbol name values) = session.addSymbol transliterate name values :=
  rfl

theorem after_of_ok (done : session.perform transliterate operation = .ok next) :
    session.after transliterate operation = next := by
  obtain ⟨effect, does⟩ := operation.exists_does transliterate
  rw [after, Step.left, does.run_of_ok done]

theorem after_of_error (failed : session.perform transliterate operation = .error failure) :
    session.after transliterate operation = session := by
  obtain ⟨effect, does⟩ := operation.exists_does transliterate
  rw [after, Step.left, does.run_of_error failed]

end Session

end Utterance
