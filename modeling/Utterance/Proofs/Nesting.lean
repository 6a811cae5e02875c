import Utterance.Proofs.Written

/-!
# Room for groups inside of groups

The walk over the marks of a pattern counts the groups that it is inside of, and enters no group beyond the limit of
nesting. It enters all groups of a written pattern exactly if the pattern is no deeper than that
(`Written.haveRoom_iff`).
-/

namespace Utterance.Pattern
set_option autoImplicit false

variable [Limits]

/-- The walk can go on to the mark from inside of `depth` groups. -/
def Mark.HasRoom (depth : Nat) : Mark → Prop
  | .openGroup _ => depth < Limits.nesting
  | _ => True

/-- The walk, inside of `depth` groups, can go over all marks. -/
def HaveRoom : (depth : Nat) → List Mark → Prop
  | _, [] => True
  | depth, mark :: rest => mark.HasRoom depth ∧ HaveRoom (mark.depthAfter depth) rest

theorem WrittenAtom.haveRoom_mark_iff (atom : WrittenAtom) {depth : Nat} {rest : List Mark} :
    HaveRoom depth (atom.mark :: rest) ↔ HaveRoom depth rest := by
  cases atom <;> simp [HaveRoom, mark, Mark.HasRoom, Mark.depthAfter]

theorem WrittenRepeat.haveRoom_mark_iff (repeated : WrittenRepeat) {depth : Nat} {rest : List Mark} :
    HaveRoom depth (repeated.mark :: rest) ↔ HaveRoom depth rest := by
  cases repeated <;> simp [HaveRoom, mark, Mark.HasRoom, Mark.depthAfter]

theorem haveRoom_repeat?_iff (repeated : Option WrittenRepeat) {depth : Nat} {rest : List Mark} :
    HaveRoom depth (markScript.repeat? repeated ++ rest) ↔ HaveRoom depth rest := by
  cases repeated with
  | none => exact Iff.rfl
  | some repeated => exact repeated.haveRoom_mark_iff

mutual

theorem Item.haveRoom_write_iff : (item : Item WrittenAtom Nat WrittenRepeat) → {depth : Nat} → {rest : List Mark} →
    depth ≤ Limits.nesting → (HaveRoom depth (item.write markScript ++ rest) ↔
      depth + item.depth ≤ Limits.nesting ∧ HaveRoom depth rest)
  | .atom content repeated, depth, rest, within => by
    have after : HaveRoom depth (markScript.repeat? repeated ++ rest) ↔ HaveRoom depth rest :=
      haveRoom_repeat?_iff repeated
    rw [Item.write, List.append_assoc, Item.depth]
    exact content.haveRoom_mark_iff.trans (after.trans (iff_and_self.2 fun _ => within))
  | .group column inner repeated, depth, rest, within => by
    have after : HaveRoom depth (markScript.repeat? repeated ++ rest) ↔ HaveRoom depth rest :=
      haveRoom_repeat?_iff repeated
    have inside := fun deeper => @Choice.haveRoom_write_iff inner (depth + 1)
      (.closeGroup :: (markScript.repeat? repeated ++ rest)) deeper
    have marks : (Item.group column inner repeated).write markScript ++ rest = .openGroup column ::
        (inner.write markScript ++ .closeGroup :: (markScript.repeat? repeated ++ rest)) := by
      simp [Item.write]
    rw [marks, HaveRoom, Item.depth]
    show depth < Limits.nesting ∧ HaveRoom (depth + 1) _ ↔ _
    constructor
    · rintro ⟨room, walked⟩
      obtain ⟨deep, left⟩ := (inside room).1 walked
      exact ⟨by omega, after.1 left.2⟩
    · rintro ⟨deep, walked⟩
      have room : depth < Limits.nesting := by omega
      exact ⟨room, (inside room).2 ⟨by omega, trivial, after.2 walked⟩⟩

theorem Phrase.haveRoom_write_iff : (phrase : Phrase WrittenAtom Nat WrittenRepeat) → {depth : Nat} →
    {rest : List Mark} → depth ≤ Limits.nesting → (HaveRoom depth (phrase.write markScript ++ rest) ↔
      depth + phrase.depth ≤ Limits.nesting ∧ HaveRoom depth rest)
  | .last item, _, _, within => Item.haveRoom_write_iff item within
  | .cons item others, depth, rest, within => by
    rw [Phrase.write, List.append_assoc, Item.haveRoom_write_iff item within, Phrase.haveRoom_write_iff others within,
      Phrase.depth]
    constructor
    · rintro ⟨first, later, walked⟩
      exact ⟨by omega, walked⟩
    · rintro ⟨deep, walked⟩
      exact ⟨by omega, by omega, walked⟩

theorem Choice.haveRoom_write_iff : (choice : Choice WrittenAtom Nat WrittenRepeat) → {depth : Nat} →
    {rest : List Mark} → depth ≤ Limits.nesting → (HaveRoom depth (choice.write markScript ++ rest) ↔
      depth + choice.depth ≤ Limits.nesting ∧ HaveRoom depth rest)
  | .last phrase, _, _, within => Phrase.haveRoom_write_iff phrase within
  | .cons phrase others, depth, rest, within => by
    have bar : ∀ marks, HaveRoom depth (.bar :: marks) ↔ HaveRoom depth marks := fun _ => and_iff_right trivial
    rw [Choice.write, List.append_assoc, List.cons_append, Phrase.haveRoom_write_iff phrase within, markScript_bar, bar,
      Choice.haveRoom_write_iff others within, Choice.depth]
    constructor
    · rintro ⟨first, later, walked⟩
      exact ⟨by omega, walked⟩
    · rintro ⟨deep, walked⟩
      exact ⟨by omega, by omega, walked⟩

end

/-- A written pattern can be walked over if it is not deeper than there is room for. -/
theorem Written.haveRoom_iff (written : Written) :
    HaveRoom 0 (written.write markScript) ↔ written.depth ≤ Limits.nesting := by
  have all : HaveRoom 0 (written.write markScript ++ []) ↔ 0 + written.depth ≤ Limits.nesting ∧ HaveRoom 0 [] :=
    Phrase.haveRoom_write_iff written (Nat.zero_le _)
  rw [List.append_nil, Nat.zero_add] at all
  exact all.trans (and_iff_left trivial)

end Utterance.Pattern
