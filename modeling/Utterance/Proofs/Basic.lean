import Utterance.Node.Chain

/-!
# Outcomes and pieces

When a computation made of steps that may fail succeeds or fails, how `splitAfter` goes along with a change of the
members, what pieces with a separator between them consist of, and where a run of members stops.
-/

namespace Utterance
set_option autoImplicit false

section Outcome

variable {ε δ α β : Type}

theorem bind_eq_ok_iff {step : Except ε α} {next : α → Except ε β} {result : β} :
    step >>= next = .ok result ↔ ∃ value, step = .ok value ∧ next value = .ok result := by
  cases step <;> simp [Bind.bind, Except.bind]

theorem exists_of_isOk {step : Except ε α} (succeeds : step.isOk = true) : ∃ value, step = .ok value := by
  cases step with
  | ok value => exact ⟨value, rfl⟩
  | error error => cases succeeds

theorem map_eq_ok_iff {step : Except ε α} {change : α → β} {result : β} :
    step.map change = .ok result ↔ ∃ value, step = .ok value ∧ change value = result := by
  cases step <;> simp [Except.map]

theorem bind_eq_error_iff {step : Except ε α} {next : α → Except ε β} {error : ε} :
    step >>= next = .error error ↔ step = .error error ∨ ∃ value, step = .ok value ∧ next value = .error error := by
  cases step <;> simp [Bind.bind, Except.bind]

theorem map_eq_error_iff {step : Except ε α} {change : α → β} {error : ε} :
    step.map change = .error error ↔ step = .error error := by
  cases step <;> simp [Except.map]

theorem mapError_eq_ok_iff {step : Except ε α} {change : ε → δ} {result : α} :
    step.mapError change = .ok result ↔ step = .ok result := by
  cases step with
  | ok value =>
    constructor
    · intro same
      rw [Except.ok.inj same]
    · intro same
      rw [Except.ok.inj same]
      rfl
  | error failure =>
    constructor
    · intro impossible
      cases impossible
    · intro impossible
      cases impossible

theorem mapError_eq_error_iff {step : Except ε α} {change : ε → δ} {error : δ} :
    step.mapError change = .error error ↔ ∃ cause, step = .error cause ∧ change cause = error := by
  cases step with
  | ok value =>
    constructor
    · intro impossible
      cases impossible
    · rintro ⟨_, impossible, _⟩
      cases impossible
  | error failure =>
    constructor
    · intro same
      exact ⟨failure, rfl, Except.error.inj same⟩
    · rintro ⟨_, same, rfl⟩
      cases same
      rfl

end Outcome

section Pieces

variable {α β : Type}

theorem splitAfter_map (change : α → β) (members : List (α × Bool)) :
    splitAfter (members.map fun member => (change member.1, member.2)) =
      (splitAfter members).map (List.map change) := by
  induction members with
  | nil => rfl
  | cons member rest ih =>
    obtain ⟨a, closes⟩ := member
    cases closes with
    | true => simp [splitAfter, ih]
    | false =>
      simp only [List.map_cons, splitAfter, ih]
      cases splitAfter rest <;> rfl

theorem flatten_splitAfter (members : List (α × Bool)) : (splitAfter members).flatten = members.map Prod.fst := by
  induction members with
  | nil => rfl
  | cons member rest ih =>
    obtain ⟨a, closes⟩ := member
    cases closes with
    | true => simp [splitAfter, ih]
    | false =>
      rw [List.map_cons, ← ih, splitAfter]
      cases splitAfter rest <;> simp

theorem splitAfter_ne_nil {members : List (α × Bool)} (nonempty : members ≠ []) : splitAfter members ≠ [] := by
  cases members with
  | nil => exact absurd rfl nonempty
  | cons member rest =>
    obtain ⟨a, closes⟩ := member
    cases closes with
    | true => simp [splitAfter]
    | false =>
      simp only [splitAfter]
      cases splitAfter rest <;> simp

theorem ne_nil_of_mem_splitAfter {members : List (α × Bool)} {piece : List α} (listed : piece ∈ splitAfter members) :
    piece ≠ [] := by
  induction members with
  | nil => exact absurd listed List.not_mem_nil
  | cons member rest ih =>
    obtain ⟨a, closes⟩ := member
    cases closes with
    | true =>
      obtain rfl | later := List.mem_cons.1 listed
      · exact List.cons_ne_nil a []
      · exact ih later
    | false =>
      rw [splitAfter] at listed
      cases pieces : splitAfter rest with
      | nil =>
        rw [pieces, List.mem_singleton] at listed
        exact listed ▸ List.cons_ne_nil a []
      | cons first others =>
        rw [pieces] at listed ih
        obtain rfl | later := List.mem_cons.1 listed
        · exact List.cons_ne_nil a first
        · exact ih (List.mem_cons_of_mem first later)

theorem mem_intercalate {a : α} {separator : List α} {pieces : List (List α)}
    (member : a ∈ separator.intercalate pieces) : a ∈ separator ∨ ∃ piece ∈ pieces, a ∈ piece := by
  induction pieces with
  | nil => simp at member
  | cons piece rest ih =>
    cases rest with
    | nil => exact .inr ⟨piece, by simp, by simpa using member⟩
    | cons next others =>
      rw [List.intercalate_cons_cons, List.mem_append, List.mem_append] at member
      obtain (here | between) | later := member
      · exact .inr ⟨piece, by simp, here⟩
      · exact .inl between
      · obtain between | ⟨found, listed, inside⟩ := ih later
        · exact .inl between
        · exact .inr ⟨found, List.mem_cons_of_mem _ listed, inside⟩

end Pieces

theorem takeWhile_append_stop {α : Type} {p : α → Bool} {run rest : List α} (all : ∀ a ∈ run, p a)
    (stop : ∀ a ∈ rest.head?, p a = false) : (run ++ rest).takeWhile p = run := by
  rw [List.takeWhile_append_of_pos all]
  cases rest with
  | nil => simp
  | cons a rest => simp [stop a rfl]

end Utterance
