import Mathlib.Algebra.BigOperators.Group.List.Basic
import Utterance.Proofs.History

/-!
# Generated names are unique

Over the whole life of a session, a generated name stands for one item of one addition in one role, and it either heads
one section or is replaced by productions (`isUnambiguous_run`). A reset does not matter, since the numbers go on.
-/

namespace Utterance
set_option autoImplicit false

/-- What is in only one of the lists is as often in all of them as in this one. -/
theorem count_flatMap_of_unique {α : Type} {lists : α → List String} {members : List α} {member : α} {name : String}
    (distinct : members.Nodup) (listed : member ∈ members)
    (only : ∀ other ∈ members, name ∈ lists other → other = member) :
    (members.flatMap lists).count name = (lists member).count name := by
  classical
  rw [List.count_flatMap, List.sum_map_eq_nsmul_single member, List.count_eq_one_of_mem distinct listed, one_nsmul]
  · rfl
  · intro other different found
    exact List.count_eq_zero_of_not_mem fun inside => different (only other found inside)

namespace History

variable {transliterate : Transliterator} {history : History}

/-- The names that productions were ever added for. -/
def replaced (history : History) : List String :=
  history.additions.flatMap fun addition => addition.grammar.map Production.name

/-- The names that sections were ever added for by patterns. -/
def headed (history : History) : List String :=
  history.additions.flatMap fun addition => addition.vocabulary.map Section.name

/-- No two generated names can be taken for each other. -/
structure IsUnambiguous [Limits] (history : History) : Prop where
  /-- names are the same only for the same item of the same addition, in the same role -/
  name_eq_iff : ∀ (i j : Nat) (first second : Addition),
    history.additions[i]? = some first → history.additions[j]? = some second →
      ∀ one ∈ first.identifiers, ∀ other ∈ second.identifiers,
        one.name = other.name ↔ i = j ∧ one.path = other.path ∧ one.role = other.role
  /-- productions are for the start and for the identifiers that head no section -/
  replaced_iff : ∀ addition ∈ history.additions, ∀ name, name ∈ addition.grammar.map Production.name ↔
    name = Name.start ∨ ∃ identifier ∈ addition.identifiers, identifier.heads = false ∧ identifier.name = name
  /-- sections are for the other identifiers -/
  headed_eq : ∀ addition ∈ history.additions, addition.vocabulary.map Section.name =
    (addition.identifiers.filter Identifier.heads).map Identifier.name
  /-- no name is one that is given by hand -/
  unreserved : ∀ addition ∈ history.additions, ∀ identifier ∈ addition.identifiers, identifier.name ∉ Name.reserved
  /-- a root has one production -/
  root_once : ∀ addition ∈ history.additions, ∀ identifier ∈ addition.identifiers, identifier.role = .root →
    history.replaced.count identifier.name = 1
  /-- what heads a section heads one -/
  headed_once : ∀ addition ∈ history.additions, ∀ identifier ∈ addition.identifiers, identifier.heads = true →
    history.headed.count identifier.name = 1
  /-- what heads a section has no production -/
  apart : ∀ name ∈ history.headed, name ∉ history.replaced

/-- Every addition takes new numbers, so none is there twice. -/
theorem Sound.nodup_additions [Limits] (sound : Sound transliterate history) : history.additions.Nodup := by
  refine List.Pairwise.imp_of_mem ?_ sound.apart
  rintro first second member _ follows rfl
  have nonempty := (sound.shape member).nonempty
  rw [Addition.nextNumber] at follows
  omega

theorem Sound.name_eq_iff [Limits] (sound : Sound transliterate history) {i j : Nat} {first second : Addition}
    (atFirst : history.additions[i]? = some first) (atSecond : history.additions[j]? = some second)
    {one other : Identifier} (member : one ∈ first.identifiers) (found : other ∈ second.identifiers) :
    one.name = other.name ↔ i = j ∧ one.path = other.path ∧ one.role = other.role := by
  constructor
  · intro same
    obtain ⟨rfl, rfl⟩ := sound.index_eq_of_name_eq atFirst atSecond member found same
    exact ⟨rfl, rfl, rfl⟩
  · rintro ⟨rfl, paths, roles⟩
    obtain rfl := Option.some.inj (atFirst.symm.trans atSecond)
    have keys : one.key = other.key := Prod.ext paths roles
    rw [List.inj_on_of_nodup_map Chain.nodup_sentenceKeys member found keys]

/-- A generated name that has productions belongs to one addition, and heads no section. -/
theorem Sound.of_mem_replaced [Limits] (sound : Sound transliterate history) {first second : Addition}
    (listed : first ∈ history.additions) (listedToo : second ∈ history.additions) {identifier : Identifier}
    (member : identifier ∈ first.identifiers) (named : identifier.name ∈ second.grammar.map Production.name) :
    second = first ∧ identifier.heads = false := by
  obtain start | ⟨other, found, plain, same⟩ := (sound.shape listedToo).name_iff.1 named
  · have reserved : identifier.name ∈ Name.reserved := start ▸ List.mem_cons_self ..
    exact absurd reserved (Chain.not_reserved_of_mem_sentenceIdentifiers member)
  · obtain ⟨rfl, rfl⟩ := sound.eq_of_name_eq listedToo listed found member same
    exact ⟨rfl, plain⟩

/-- A generated name that heads a section belongs to one addition. -/
theorem Sound.of_mem_headed [Limits] (sound : Sound transliterate history) {first second : Addition}
    (listed : first ∈ history.additions) (listedToo : second ∈ history.additions) {identifier : Identifier}
    (member : identifier ∈ first.identifiers) (named : identifier.name ∈ second.vocabulary.map Section.name) :
    second = first := by
  obtain ⟨other, found, _, same⟩ := (sound.shape listedToo).exists_identifier_of_mem_vocabulary named
  exact (sound.eq_of_name_eq listedToo listed found member same).1

theorem Sound.count_replaced_root [Limits] (sound : Sound transliterate history) {addition : Addition}
    (listed : addition ∈ history.additions) {identifier : Identifier} (member : identifier ∈ addition.identifiers)
    (root : identifier.role = .root) : history.replaced.count identifier.name = 1 := by
  have only : ∀ other ∈ history.additions, identifier.name ∈ other.grammar.map Production.name → other = addition :=
    fun other listedToo named => (sound.of_mem_replaced listed listedToo member named).1
  rw [replaced, count_flatMap_of_unique sound.nodup_additions listed only, (sound.shape listed).grammar]
  obtain ⟨position, inside, rfl⟩ | word := Chain.mem_sentenceIdentifiers.1 member
  · exact Chain.count_root_sentenceProductions inside
  · exact absurd root (Chain.key_of_mem_identifiers word).2

theorem Sound.count_headed [Limits] (sound : Sound transliterate history) {addition : Addition}
    (listed : addition ∈ history.additions) {identifier : Identifier} (member : identifier ∈ addition.identifiers)
    (heads : identifier.heads = true) : history.headed.count identifier.name = 1 := by
  have only : ∀ other ∈ history.additions, identifier.name ∈ other.vocabulary.map Section.name → other = addition :=
    fun other listedToo named => sound.of_mem_headed listed listedToo member named
  rw [headed, count_flatMap_of_unique sound.nodup_additions listed only,
    (sound.shape listed).map_name_vocabulary]
  exact List.count_eq_one_of_mem (Chain.nodup_sentenceIdentifiers.sublist (List.filter_sublist.map _))
    (List.mem_map_of_mem (List.mem_filter.2 ⟨member, heads⟩))

theorem Sound.notMem_replaced [Limits] (sound : Sound transliterate history) {name : String}
    (member : name ∈ history.headed) : name ∉ history.replaced := by
  intro both
  obtain ⟨first, listed, headed⟩ := List.mem_flatMap.1 member
  obtain ⟨second, listedToo, replaced⟩ := List.mem_flatMap.1 both
  obtain ⟨identifier, found, heads, rfl⟩ := (sound.shape listed).exists_identifier_of_mem_vocabulary headed
  have plain := (sound.of_mem_replaced listed listedToo found replaced).2
  rw [heads] at plain
  cases plain

/-- However a session is used, the names that its patterns generate are unique over its whole life. -/
theorem isUnambiguous_run [Limits] (transliterate : Transliterator) (operations : List Operation) :
    (run transliterate operations).IsUnambiguous := by
  have sound := sound_run transliterate operations
  constructor
  case name_eq_iff =>
    intro i j first second atFirst atSecond one member other found
    exact sound.name_eq_iff atFirst atSecond member found
  case replaced_iff => exact fun addition listed _ => (sound.shape listed).name_iff
  case headed_eq => exact fun addition listed => (sound.shape listed).map_name_vocabulary
  case unreserved => exact fun _ _ _ member => Chain.not_reserved_of_mem_sentenceIdentifiers member
  case root_once => exact fun _ listed _ member root => sound.count_replaced_root listed member root
  case headed_once => exact fun _ listed _ member heads => sound.count_headed listed member heads
  case apart => exact fun _ member => sound.notMem_replaced member

/-- A repeated group, a pattern that cannot be parsed, a reset, and two literals with the same text. -/
def resetOperations : List Operation :=
  [.add ⟨"('a'+ | <x>)?", "example", 1⟩, .add ⟨"'a", "example", 2⟩, .reset, .add ⟨"'a' 'a'+", "example", 3⟩]

section
open scoped Workstation

theorem isUnambiguous_run_reset :
    (run Transliterator.verbatim resetOperations).additions.map (fun addition =>
        addition.identifiers.map Identifier.name) =
      [["ROOT_0", "WORD_0", "WORD_0_LOOP", "WORD_0_LOOP_0", "WORD_0_LOOP_0_LOOP", "WORD_0_LOOP_1"],
        ["ROOT_1", "ROOT_2", "WORD_1", "WORD_2", "WORD_2_LOOP"]] ∧
      (run Transliterator.verbatim resetOperations).IsUnambiguous :=
  ⟨by decide +kernel, isUnambiguous_run Transliterator.verbatim resetOperations⟩

end

end History

end Utterance
