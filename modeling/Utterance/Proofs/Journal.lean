import Mathlib.Data.List.DropRight
import Utterance.PatternFile
import Utterance.Proofs.History

/-!
# The journal of a session

A session can be told from the operations that succeeded, in their order. Each appended what it generates when its items
are numbered from the number of all items before it, and the session is its preamble with what was appended since the
last reset (`exists_journal_serveAll`). What failed left no trace, whether it was an operation or a line of a pattern
file, and whether or not the failure was one that is reported.
-/

namespace Utterance
set_option autoImplicit false

namespace Operation

/-- Whether what was added is dropped. -/
def isReset : Operation → Bool
  | .reset => true
  | _ => false

/-- How many top-level items the operation adds. -/
def items [Limits] : Operation → Nat
  | .add source =>
    match Pattern.parse source with
    | .ok table => table.chain.count
    | .error _ => 0
  | _ => 0

/-- What the operation appends to a session, its items being numbered from `number`. -/
def fragment [Limits] (transliterate : Transliterator) (number : Int) : Operation → Except Failure (Grammar × Vocabulary)
  | .add source => do
    let table ← Session.parse source
    let lowered ← (table.lower transliterate number).mapError Failure.ofLowering
    return (lowered.grammar, lowered.vocabulary)
  | .addSymbol name values => (Session.symbolSection transliterate name values).map fun block => ([], [block])
  | .reset => .ok ([], [])

end Operation

/-- An operation that succeeded, and what it appended. -/
structure Event where
  operation : Operation
  grammar : Grammar
  vocabulary : Vocabulary

/-- The operations that succeeded, in their order. -/
abbrev Journal := List Event

namespace Journal

/-- How many top-level items were added, resets or not. -/
def items [Limits] : Journal → Nat
  | [] => 0
  | event :: rest => event.operation.items + items rest

/-- Each operation appended what it generates when its items are numbered on from those before it. -/
def IsGenerated [Limits] (transliterate : Transliterator) : (number : Int) → Journal → Prop
  | _, [] => True
  | number, event :: rest =>
    event.operation.fragment transliterate number = .ok (event.grammar, event.vocabulary) ∧
      IsGenerated transliterate (number + event.operation.items) rest

/-- The operations since the last reset. -/
def kept (journal : Journal) : Journal :=
  journal.rtakeWhile fun event => !event.operation.isReset

/-- The session that a journal tells. -/
def session [Limits] (journal : Journal) : Session where
  grammar := preambleGrammar ++ journal.kept.flatMap Event.grammar
  vocabulary := preambleVocabulary ++ journal.kept.flatMap Event.vocabulary
  nextNumber := journal.items

end Journal

/-- What a session can be asked for. -/
inductive Request where
  | perform (operation : Operation)
  | parse (source : Pattern.Source)
  | compile (text file : String)

namespace Session

/-- The session after operations one after the other. -/
def run [Limits] (transliterate : Transliterator) (session : Session) (operations : List Operation) : Session :=
  operations.foldl (after transliterate) session

/-- Those of the operations that succeed when they are done one after the other. -/
def succeeded [Limits] (transliterate : Transliterator) : Session → List Operation → List Operation
  | _, [] => []
  | session, operation :: rest =>
    match session.perform transliterate operation with
    | .ok next => operation :: next.succeeded transliterate rest
    | .error _ => session.succeeded transliterate rest

/-- The additions that pattern lines are, up to the first that fails otherwise than by what the user wrote. -/
def lineAttempts [Limits] (transliterate : Transliterator) (file : String) : Session → List (Nat × String) → List Operation
  | _, [] => []
  | session, (number, pattern) :: rest =>
    let operation := Operation.add ⟨pattern, file, number⟩
    match session.perform transliterate operation with
    | .ok next => operation :: next.lineAttempts transliterate file rest
    | .error (.user _) => operation :: session.lineAttempts transliterate file rest
    | .error _ => [operation]

/-- The operations that a request attempts. Parsing attempts none, it only reads. -/
def attempts [Limits] (transliterate : Transliterator) (session : Session) : Request → List Operation
  | .perform operation => [operation]
  | .parse _ => []
  | .compile text file => session.lineAttempts transliterate file (patternLines text)

/-- The session after a request, also after one that fails. -/
def serve [Limits] (transliterate : Transliterator) (session : Session) : Request → Session
  | .perform operation => session.after transliterate operation
  | .parse _ => session
  | .compile text file => (session.compile transliterate text file).session

/-- The session after requests one after the other. -/
def serveAll [Limits] (transliterate : Transliterator) (session : Session) (requests : List Request) : Session :=
  requests.foldl (serve transliterate) session

/-- The operations that requests attempt one after the other. -/
def attemptsAll [Limits] (transliterate : Transliterator) : Session → List Request → List Operation
  | _, [] => []
  | session, request :: rest =>
    session.attempts transliterate request ++ (session.serve transliterate request).attemptsAll transliterate rest

end Session

/-! ## One line of a pattern file -/

namespace Compilation

variable {transliterate : Transliterator} {compilation : Compilation} {file pattern : String} {number : Nat}
  {rest : List (Nat × String)}

/-- A pattern that is added. -/
theorem addLines_of_ok [Limits] {next : Session} (going : compilation.aborted = none)
    (added : compilation.session.add transliterate ⟨pattern, file, number⟩ = .ok next) :
    compilation.addLines transliterate file ((number, pattern) :: rest) =
      addLines transliterate file { compilation with session := next, compiled := compilation.compiled + 1 } rest := by
  have run := (Session.does_add transliterate ⟨pattern, file, number⟩).run_of_ok added
  simp only [addLines, addLine, run, going, Option.isSome_none, Bool.false_eq_true, if_false]

/-- A pattern that the user got wrong. -/
theorem addLines_of_user [Limits] {error : UserError} (going : compilation.aborted = none)
    (refused : compilation.session.add transliterate ⟨pattern, file, number⟩ = .error (.user error)) :
    compilation.addLines transliterate file ((number, pattern) :: rest) =
      addLines transliterate file
        { compilation with report := compilation.report.add (error.diagnostic (some ⟨file, number, 1, 0⟩)) } rest := by
  have run := (Session.does_add transliterate ⟨pattern, file, number⟩).run_of_error refused
  simp only [addLines, addLine, run, going, Option.isSome_none, Bool.false_eq_true, if_false]

/-- A pattern that ends the file. -/
theorem addLines_of_failure [Limits] {failure : Failure}
    (failed : compilation.session.add transliterate ⟨pattern, file, number⟩ = .error failure)
    (other : ∀ error, failure ≠ .user error) :
    compilation.addLines transliterate file ((number, pattern) :: rest) =
      { compilation with aborted := some failure } := by
  have run := (Session.does_add transliterate ⟨pattern, file, number⟩).run_of_error failed
  cases failure with
  | user error => exact absurd rfl (other error)
  | _ => simp only [addLines, addLine, run, Option.isSome_some, if_true]

end Compilation

/-! ## Requests are operations -/

namespace Session

variable {transliterate : Transliterator}

theorem run_cons [Limits] (session : Session) (operation : Operation) (rest : List Operation) :
    session.run transliterate (operation :: rest) = (session.after transliterate operation).run transliterate rest :=
  rfl

theorem run_append [Limits] (session : Session) (first second : List Operation) :
    session.run transliterate (first ++ second) = (session.run transliterate first).run transliterate second :=
  List.foldl_append

/-- A pattern file does to a session what its lines do that are attempted. -/
theorem addLines_session [Limits] {file : String} {compilation : Compilation} (lines : List (Nat × String))
    (going : compilation.aborted = none) :
    (compilation.addLines transliterate file lines).session =
      compilation.session.run transliterate (compilation.session.lineAttempts transliterate file lines) := by
  induction lines generalizing compilation with
  | nil => rfl
  | cons line rest ih =>
    obtain ⟨number, pattern⟩ := line
    rw [lineAttempts]
    -- Matching on what adding the line gives decides both sides.
    cases performed : compilation.session.perform transliterate (.add ⟨pattern, file, number⟩) with
    | ok next =>
      rw [Compilation.addLines_of_ok going performed, run_cons, after_of_ok performed]
      exact ih going
    | error failure =>
      have unchanged := after_of_error performed
      cases failure with
      | user error =>
        rw [Compilation.addLines_of_user going performed, run_cons, unchanged]
        exact ih going
      | _ =>
        rw [Compilation.addLines_of_failure performed (by simp)]
        exact unchanged.symm

theorem serve_eq_run [Limits] (session : Session) (request : Request) :
    session.serve transliterate request = session.run transliterate (session.attempts transliterate request) := by
  cases request with
  | perform operation => rfl
  | parse source => rfl
  | compile text file => exact addLines_session (patternLines text) rfl

theorem serveAll_eq_run [Limits] (session : Session) (requests : List Request) :
    session.serveAll transliterate requests = session.run transliterate (session.attemptsAll transliterate requests) := by
  induction requests generalizing session with
  | nil => rfl
  | cons request rest ih =>
    rw [attemptsAll, run_append, ← serve_eq_run, ← ih]
    rfl

theorem serveAll_perform [Limits] (session : Session) (operations : List Operation) :
    session.serveAll transliterate (operations.map .perform) = session.run transliterate operations := by
  rw [serveAll, List.foldl_map]
  rfl

/-- Without the operations that fail the session is the same. -/
theorem run_succeeded [Limits] (session : Session) (operations : List Operation) :
    session.run transliterate (session.succeeded transliterate operations) = session.run transliterate operations := by
  induction operations generalizing session with
  | nil => rfl
  | cons operation rest ih =>
    rw [succeeded, run_cons]
    split
    · rename_i next done
      rw [run_cons, after_of_ok done]
      exact ih next
    · rename_i failed
      rw [after_of_error failed]
      exact ih session

end Session

/-! ## What an operation adds to the journal -/

namespace Journal

variable {transliterate : Transliterator} {journal : Journal} {event : Event}

theorem items_append [Limits] (first second : Journal) : items (first ++ second) = items first + items second := by
  induction first with
  | nil => simp [items]
  | cons event rest ih =>
    rw [List.cons_append, items, items, ih]
    omega

theorem IsGenerated.concat [Limits] {number : Int} (generated : journal.IsGenerated transliterate number)
    (last : event.operation.fragment transliterate (number + journal.items) = .ok (event.grammar, event.vocabulary)) :
    IsGenerated transliterate number (journal ++ [event]) := by
  induction journal generalizing number with
  | nil =>
    have last : event.operation.fragment transliterate number = .ok (event.grammar, event.vocabulary) := by
      simpa [items] using last
    exact ⟨last, trivial⟩
  | cons first rest ih =>
    refine ⟨generated.1, ih generated.2 ?_⟩
    rw [items, Int.natCast_add, ← Int.add_assoc] at last
    exact last

/-- An operation that is no reset appends its fragment and counts its items. -/
theorem session_concat [Limits] (goesOn : event.operation.isReset = false) : session (journal ++ [event]) =
    ⟨journal.session.grammar ++ event.grammar, journal.session.vocabulary ++ event.vocabulary,
      journal.session.nextNumber + event.operation.items⟩ := by
  have kept : kept (journal ++ [event]) = journal.kept ++ [event] :=
    List.rtakeWhile_concat_pos _ _ _ (by simp [goesOn])
  simp only [session, kept, items_append, items, List.flatMap_append, List.flatMap_singleton, List.append_assoc,
    Nat.add_zero, Int.natCast_add]

/-- A reset drops everything but the count. -/
theorem session_concat_reset [Limits] (resets : event.operation.isReset = true) (itemless : event.operation.items = 0) :
    session (journal ++ [event]) = journal.session.reset := by
  have kept : kept (journal ++ [event]) = [] :=
    List.rtakeWhile_concat_neg _ _ _ (by simp [resets])
  simp only [session, kept, items_append, items, itemless, Session.reset_eq, List.flatMap_nil, List.append_nil,
    Nat.add_zero]

/-- One operation that succeeds: it appends its fragment, which is numbered from the items before it. -/
theorem exists_event [Limits] {operation : Operation} {after : Session}
    (done : journal.session.perform transliterate operation = .ok after) :
    ∃ event : Event, event.operation = operation ∧
      operation.fragment transliterate journal.items = .ok (event.grammar, event.vocabulary) ∧
      after = session (journal ++ [event]) := by
  cases operation with
  | add source =>
    simp only [Session.perform_add, Session.add_eq, bind_eq_ok_iff, mapError_eq_ok_iff] at done
    obtain ⟨table, parsed, lowered, lowers, same⟩ := done
    have counted : lowered.nextNumber = journal.session.nextNumber + (Operation.add source).items := by
      obtain ⟨_, _, _, rfl⟩ := NodeTable.lower_eq_ok_iff.1 lowers
      rw [Operation.items, mapError_eq_ok_iff.1 parsed]
      rfl
    refine ⟨⟨.add source, lowered.grammar, lowered.vocabulary⟩, rfl, ?_, ?_⟩
    · simp only [Operation.fragment, bind_eq_ok_iff, mapError_eq_ok_iff]
      exact ⟨table, parsed, lowered, lowers, rfl⟩
    · rw [session_concat rfl, ← counted]
      exact (Except.ok.inj same).symm
  | addSymbol name values =>
    simp only [Session.perform_addSymbol, Session.addSymbol_eq, bind_eq_ok_iff] at done
    obtain ⟨block, made, same⟩ := done
    refine ⟨⟨.addSymbol name values, [], [block]⟩, rfl, ?_, ?_⟩
    · rw [Operation.fragment, made]
      rfl
    · rw [session_concat rfl, ← Except.ok.inj same]
      simp [Operation.items]
  | reset =>
    obtain rfl := Except.ok.inj done
    exact ⟨⟨.reset, [], []⟩, rfl, rfl, (session_concat_reset rfl rfl).symm⟩

/-- Any number of operations. -/
theorem exists_journal_run [Limits] (generated : journal.IsGenerated transliterate 0) (operations : List Operation) :
    ∃ more : Journal, more.map Event.operation = journal.session.succeeded transliterate operations ∧
      IsGenerated transliterate 0 (journal ++ more) ∧
      journal.session.run transliterate operations = session (journal ++ more) := by
  induction operations generalizing journal with
  | nil => exact ⟨[], rfl, by rwa [List.append_nil], by rw [List.append_nil]; rfl⟩
  | cons operation rest ih =>
    rw [Session.succeeded, Session.run_cons]
    split
    · rename_i next done
      obtain ⟨event, rfl, fragment, rfl⟩ := exists_event done
      have grown : IsGenerated transliterate 0 (journal ++ [event]) := generated.concat (by rwa [Int.zero_add])
      obtain ⟨more, operations, generated, ran⟩ := ih grown
      refine ⟨event :: more, by rw [List.map_cons, operations], ?_, ?_⟩
      · rwa [List.append_assoc] at generated
      · rw [Session.after_of_ok done, ran, List.append_assoc]
        rfl
    · rename_i failed
      rw [Session.after_of_error failed]
      exact ih generated

end Journal

/-- A session is what its journal tells, the journal being of the operations that succeeded; and it is the same without
the others. -/
theorem exists_journal_serveAll [Limits] (transliterate : Transliterator) (requests : List Request) :
    ∃ journal : Journal,
      journal.map Event.operation =
        Session.succeeded transliterate {} (Session.attemptsAll transliterate {} requests) ∧
      journal.IsGenerated transliterate 0 ∧
      Session.serveAll transliterate {} requests = journal.session ∧
      Session.serveAll transliterate {} ((journal.map Event.operation).map .perform) =
        Session.serveAll transliterate {} requests := by
  have new : Journal.session [] = {} := by simp [Journal.session, Journal.kept, Journal.items]
  have empty : Journal.IsGenerated transliterate 0 [] := trivial
  obtain ⟨journal, operations, generated, ran⟩ :=
    Journal.exists_journal_run empty (Session.attemptsAll transliterate {} requests)
  rw [new] at operations ran
  refine ⟨journal, operations, generated, ?_, ?_⟩
  · rw [Session.serveAll_eq_run]
    exact ran
  · rw [operations, Session.serveAll_perform, Session.run_succeeded, Session.serveAll_eq_run]

end Utterance
