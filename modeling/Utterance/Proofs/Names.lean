import Utterance.Grammar.Lowering

/-!
# Names of items

A name covers itself and every name that goes on after it with an underscore. The name of an item covers the names
of everything below the item, and since a number has no underscore in it, two items of one scope cover nothing in
common. This is how a name can be decoded, at every depth, into the numbers it was made of.
-/

namespace Utterance.Name
set_option autoImplicit false

/-- The other name is the name itself, or the name with an underscore and more after it. -/
def Covers (name other : String) : Prop :=
  other = name ∨ ∃ more, other = name ++ "_" ++ more

theorem covers_self (name : String) : Covers name name := .inl rfl

theorem covers_child (scope : String) (number : Int) : Covers scope (child scope number) :=
  .inr ⟨toString number, rfl⟩

theorem covers_loop (name : String) : Covers name (loop name) :=
  .inr ⟨"LOOP", by simp [loop, String.append_assoc]⟩

theorem Covers.trans {first second third : String} (outer : Covers first second) (inner : Covers second third) :
    Covers first third := by
  obtain rfl | ⟨more, rfl⟩ := inner
  · exact outer
  · obtain rfl | ⟨before, rfl⟩ := outer
    · exact .inr ⟨more, rfl⟩
    · exact .inr ⟨before ++ "_" ++ more, by simp [String.append_assoc]⟩

theorem Covers.length_le {name other : String} (covers : Covers name other) : name.length ≤ other.length := by
  obtain rfl | ⟨more, rfl⟩ := covers
  · exact Nat.le_refl _
  · simp only [String.length_append]
    omega

theorem length_lt_child (scope : String) (number : Int) : scope.length < (child scope number).length := by
  have underscore : "_".length = 1 := rfl
  simp only [child, String.length_append]
  omega

theorem length_lt_loop (name : String) : name.length < (loop name).length := by
  have suffix : "_LOOP".length = 5 := rfl
  simp only [loop, String.length_append]
  omega

theorem not_covers_scope (scope : String) (number : Int) : ¬Covers (child scope number) scope :=
  fun covers => absurd covers.length_le (Nat.not_le.2 (length_lt_child scope number))

theorem isDigit_of_mem_number {number : Int} {c : Char} (member : c ∈ (toString number).toList) :
    c = '-' ∨ c.isDigit := by
  have digit : ∀ {n : Nat}, c ∈ n.repr.toList → c.isDigit := by
    intro n listed
    rw [Nat.repr_eq_ofList_toDigits, String.toList_ofList] at listed
    exact Nat.isDigit_of_mem_toDigits (by decide) (by decide) listed
  rw [Int.toString_eq_repr, Int.repr_eq_if] at member
  split at member
  · exact .inr (digit member)
  · rw [String.toList_append, List.mem_append] at member
    obtain sign | rest := member
    · exact .inl (by simpa using sign)
    · exact .inr (digit rest)

theorem number_ne_nil (number : Int) : (toString number).toList ≠ [] := by
  rw [Int.toString_eq_repr, Int.repr_eq_if]
  split
  · rw [Nat.repr_eq_ofList_toDigits, String.toList_ofList]
    exact Nat.toDigits_ne_nil
  · simp

theorem underscore_notMem_number (number : Int) : '_' ∉ (toString number).toList :=
  fun member => absurd (isDigit_of_mem_number member) (by decide)

theorem toDigits_injective {first second : Nat} (same : Nat.toDigits 10 first = Nat.toDigits 10 second) :
    first = second := by
  have value := congrArg (Nat.ofDigitChars 10 · 0) same
  simpa only [Nat.ofDigitChars_ten_toDigits] using value

theorem minus_notMem_toDigits (number : Nat) : '-' ∉ Nat.toDigits 10 number :=
  fun member => absurd (Nat.isDigit_of_mem_toDigits (by decide) (by decide) member) (by decide)

/-- A number can be read off its digits and its sign. -/
theorem number_injective {first second : Int} (same : (toString first).toList = (toString second).toList) :
    first = second := by
  rw [Int.toString_eq_repr, Int.toString_eq_repr, Int.repr_eq_if, Int.repr_eq_if] at same
  split at same <;> split at same
  · simp only [Nat.repr_eq_ofList_toDigits, String.toList_ofList] at same
    have := toDigits_injective same
    omega
  · have sign : '-' ∈ Nat.toDigits 10 first.toNat := by
      simp only [Nat.repr_eq_ofList_toDigits, String.toList_ofList, String.toList_append] at same
      simp [same]
    exact absurd sign (minus_notMem_toDigits _)
  · have sign : '-' ∈ Nat.toDigits 10 second.toNat := by
      simp only [Nat.repr_eq_ofList_toDigits, String.toList_ofList, String.toList_append] at same
      simp [← same]
    exact absurd sign (minus_notMem_toDigits _)
  · simp only [Nat.repr_eq_ofList_toDigits, String.toList_ofList, String.toList_append,
      List.append_cancel_left_eq] at same
    have := toDigits_injective same
    omega

/-- Two texts without underscores that go on with an underscore or end are the same. -/
theorem eq_of_append_eq {first second afterFirst afterSecond : List Char} (plainFirst : '_' ∉ first)
    (plainSecond : '_' ∉ second) (cutFirst : ∀ c ∈ afterFirst.head?, c = '_')
    (cutSecond : ∀ c ∈ afterSecond.head?, c = '_') (same : first ++ afterFirst = second ++ afterSecond) :
    first = second := by
  induction first generalizing second with
  | nil =>
    cases second with
    | nil => rfl
    | cons c rest =>
      rw [List.nil_append] at same
      have := cutFirst c (by simp [same])
      simp [this] at plainSecond
  | cons c rest ih =>
    cases second with
    | nil =>
      rw [List.nil_append] at same
      have := cutSecond c (by simp [← same])
      simp [this] at plainFirst
    | cons d others =>
      simp only [List.cons_append, List.cons.injEq] at same
      obtain ⟨rfl, same⟩ := same
      simp only [List.mem_cons, not_or] at plainFirst plainSecond
      rw [ih plainFirst.2 plainSecond.2 same]

theorem Covers.exists_toList {name other : String} (covers : Covers name other) :
    ∃ after, other.toList = name.toList ++ after ∧ ∀ c ∈ after.head?, c = '_' := by
  obtain rfl | ⟨more, rfl⟩ := covers
  · exact ⟨[], by simp⟩
  · exact ⟨'_' :: more.toList, by simp⟩

/-- The number of an item can be read off every name below it. -/
theorem number_eq_of_covers {scope name : String} {first second : Int} (one : Covers (child scope first) name)
    (other : Covers (child scope second) name) : first = second := by
  obtain ⟨afterFirst, textFirst, cutFirst⟩ := one.exists_toList
  obtain ⟨afterSecond, textSecond, cutSecond⟩ := other.exists_toList
  have same := textFirst.symm.trans textSecond
  simp only [child, String.toList_append, List.append_assoc, List.append_cancel_left_eq] at same
  exact number_injective
    (eq_of_append_eq (underscore_notMem_number first) (underscore_notMem_number second) cutFirst cutSecond same)

theorem child_injective {scope : String} {first second : Int} (same : child scope first = child scope second) :
    first = second := by
  have covers : Covers (child scope second) (child scope first) := same ▸ covers_self _
  exact number_eq_of_covers (covers_self _) covers

end Utterance.Name
