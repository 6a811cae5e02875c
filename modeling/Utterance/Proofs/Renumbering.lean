import Mathlib.Algebra.Group.Int.Defs
import Mathlib.Algebra.Group.Units.Equiv
import Mathlib.Data.List.Perm.Basic
import Utterance.Proofs.Accepted
import Utterance.Proofs.Drafts
import Utterance.Proofs.Journal

/-!
# Numbers of items and the order of patterns

The number from which a pattern is numbered changes nothing but the numbers of its top-level items, and the order in
which patterns are added to a new session changes nothing but these numbers and the order of what is added, as long as
all of the numbers can be written (`lower_shift_and_run_perm`).
-/

namespace Utterance
set_option autoImplicit false
open Pattern

/-! ## Another start -/

namespace Chain

variable {chain : Chain} {transliterate : Transliterator}

/-- A chain that fits from one number on fits from any other, if its items have numbers that can be written. -/
theorem Fits.rebase [Limits] {number start : Int} (fits : chain.Fits number)
    (writable : ∀ i : Nat, i < chain.count → isWritable (start + i) = true) : chain.Fits start := by
  induction chain generalizing number start with
  | nil => trivial
  | broken index => trivial
  | leaf content repetition closes next ih =>
    obtain ⟨first, later⟩ := @agree_succ Bool isWritable (fun _ => true) start start _ writable
    exact ⟨first, fits.2.1, ih fits.2.2 later⟩
  | group inner repetition closes next _ ih =>
    obtain ⟨first, later⟩ := @agree_succ Bool isWritable (fun _ => true) start start _ writable
    exact ⟨first, fits.2.1, fits.2.2.1, ih fits.2.2.2 later⟩

theorem isWritable_iff {number : Nat} : isWritable number = true ↔ number < Nat.pow 10 digitLimit := by
  rw [isWritable, decide_eq_true_iff, Int.natAbs_natCast]

theorem isWritable_add_of_le {start count i : Nat} (room : start + count ≤ Nat.pow 10 digitLimit) (inside : i < count) :
    isWritable ((start : Int) + i) = true := by
  rw [← Int.natCast_add, isWritable_iff]
  exact Nat.lt_of_lt_of_le (Nat.add_lt_add_left inside start) room

/-- What fits from a number on fits from any other from which the numbers can be written. -/
theorem Fits.move [Limits] {number start : Nat} (fits : chain.Fits number)
    (room : start + chain.count ≤ Nat.pow 10 digitLimit) : chain.Fits start :=
  fits.rebase fun _ inside => isWritable_add_of_le room inside

theorem last_mem_numbering (nonempty : 0 < chain.count) (number : Nat) :
    ((number + (chain.count - 1) : Nat) : Int) ∈ (chain.numbering number).map Prod.fst := by
  rw [map_fst_numbering]
  exact List.mem_map.2 ⟨chain.count - 1, List.mem_range.2 (Nat.sub_lt nonempty Nat.one_pos), by simp⟩

theorem Fits.add_count_le [Limits] {number : Nat} (fits : chain.Fits number) (nonempty : 0 < chain.count) :
    number + chain.count ≤ Nat.pow 10 digitLimit := by
  obtain ⟨entry, member, same⟩ := List.mem_map.1 (last_mem_numbering nonempty number)
  have below := isWritable_iff.1 (same ▸ isWritable_of_fits fits entry member)
  omega

/-- A top-level chain with a number that cannot be written is not lowered. -/
theorem sentence_eq_oversized [Limits] (known : chain.IsKnown) (nonempty : 0 < chain.count) {number : Nat}
    (beyond : Nat.pow 10 digitLimit < number + chain.count) :
    chain.sentence transliterate number = .error .oversizedNumber := by
  have unwritable : ((chain.numbering number).map Prod.fst).all isWritable = false := by
    rw [List.all_eq_false]
    refine ⟨_, last_mem_numbering nonempty number, fun writable => ?_⟩
    have below := isWritable_iff.1 writable
    omega
  rw [Chain.sentence, numbers_eq_ok known]
  simp only [Bind.bind, Except.bind, unwritable]
  rfl

end Chain

namespace Pattern

variable {source : Source} {table : NodeTable} {transliterate : Transliterator}

theorem count_pos_of_parse [Limits] (accepted : parse source = .ok table) : 0 < table.chain.count := by
  obtain ⟨expression, _, denotes⟩ := exists_spelledBy_of_parse accepted
  rw [denotes]
  exact Nat.pos_of_ne_zero (expression.count_chain_ne_zero _ _)

theorem lower_eq_ok_iff [Limits] (accepted : parse source = .ok table) {number : Int} {lowered : Lowered} :
    table.lower transliterate number = .ok lowered ↔
      table.chain.Fits number ∧ table.chain.Pronounceable transliterate ∧
        lowered = (table.chain.sentenceDraft transliterate number).lowered (number + table.chain.count) := by
  rw [NodeTable.lower_eq_ok_iff, Chain.written_sentenceDraft]
  simp only [isKnown_of_parse accepted, true_and]

/-- A pattern that is lowered from one number on is lowered from any other from which its numbers can be written. -/
theorem lower_move [Limits] (accepted : parse source = .ok table) (number start : Nat) {lowered : Lowered}
    (lowers : table.lower transliterate number = .ok lowered)
    (room : start + table.chain.count ≤ Nat.pow 10 digitLimit) :
    table.lower transliterate start =
      .ok ((table.chain.sentenceDraft transliterate start).lowered (start + table.chain.count)) := by
  obtain ⟨fits, said, _⟩ := (lower_eq_ok_iff accepted).1 lowers
  exact (lower_eq_ok_iff accepted).2 ⟨fits.move room, said, rfl⟩

end Pattern

/-! ## Sessions -/

/-- The chain of a pattern that is lowered from 0 on. -/
def addedChain? [Limits] (transliterate : Transliterator) (source : Source) : Option Chain :=
  match parse source with
  | .error _ => none
  | .ok table =>
    match table.lower transliterate 0 with
    | .error _ => none
    | .ok _ => some table.chain

/-- The chains of those patterns that can be added. -/
def addedChains [Limits] (transliterate : Transliterator) (sources : List Source) : List Chain :=
  sources.filterMap (addedChain? transliterate)

namespace Chain

/-- How many top-level items chains have in all. -/
def total : List Chain → Nat
  | [] => 0
  | chain :: rest => chain.count + total rest

/-- The draft of top-level chains that are numbered on from one another. -/
def sentenceDrafts (transliterate : Transliterator) : (number : Int) → List Chain → Draft
  | _, [] => ⟨[], []⟩
  | number, chain :: rest =>
    chain.sentenceDraft transliterate number ++ sentenceDrafts transliterate (number + chain.count) rest

end Chain

/-- The draft of what patterns add to a new session one after the other. -/
def addedDraft [Limits] (transliterate : Transliterator) (sources : List Source) : Draft :=
  Chain.sentenceDrafts transliterate 0 (addedChains transliterate sources)

namespace Session

variable {transliterate : Transliterator} {session : Session} {source : Source} {number : Nat}

theorem after_add_of_added [Limits] {chain : Chain} (added : addedChain? transliterate source = some chain)
    (next : session.nextNumber = number) (room : number + chain.count ≤ Nat.pow 10 digitLimit) :
    session.after transliterate (.add source) =
      session.append ((chain.sentenceDraft transliterate number).lowered (number + chain.count)) := by
  unfold addedChain? at added
  split at added
  · cases added
  · rename_i table accepted
    split at added
    · cases added
    · rename_i lowered lowers
      obtain rfl := Option.some.inj added
      have moved := lower_move accepted 0 number lowers room
      refine after_of_ok ?_
      simp only [perform_add, add_eq, bind_eq_ok_iff, mapError_eq_ok_iff, Session.parse]
      exact ⟨table, accepted, _, next ▸ moved, rfl⟩

theorem after_add_of_not_added [Limits] (refused : addedChain? transliterate source = none)
    (next : session.nextNumber = number) : session.after transliterate (.add source) = session := by
  cases performed : session.perform transliterate (.add source) with
  | error failure => exact after_of_error performed
  | ok after =>
    simp only [perform_add, add_eq, bind_eq_ok_iff, mapError_eq_ok_iff, Session.parse] at performed
    obtain ⟨table, accepted, lowered, lowers, _⟩ := performed
    rw [next] at lowers
    -- What is lowered from a higher number on has room from 0 on as well.
    obtain ⟨fits, _, _⟩ := (lower_eq_ok_iff accepted).1 lowers
    have room := fits.add_count_le (count_pos_of_parse accepted)
    have moved := lower_move accepted number 0 lowers (by omega)
    rw [addedChain?, accepted] at refused
    simp only [Int.natCast_zero] at moved
    simp only [moved] at refused
    cases refused

/-- Patterns that are added one after the other append their drafts; one that is refused appends nothing. -/
theorem run_add [Limits] (sources : List Source) (next : session.nextNumber = number)
    (room : number + Chain.total (addedChains transliterate sources) ≤ Nat.pow 10 digitLimit) :
    session.run transliterate (sources.map Operation.add) =
      session.append ((Chain.sentenceDrafts transliterate number (addedChains transliterate sources)).lowered
        (number + Chain.total (addedChains transliterate sources))) := by
  induction sources generalizing session number with
  | nil =>
    obtain ⟨grammar, vocabulary, nextNumber⟩ := session
    obtain rfl := next
    simp [Session.run, Session.append, addedChains, Chain.sentenceDrafts, Draft.lowered, Draft.grammar,
      Draft.vocabulary, Chain.total]
  | cons source rest ih =>
    rw [List.map_cons, run_cons]
    cases added : addedChain? transliterate source with
    | none =>
      have chains : addedChains transliterate (source :: rest) = addedChains transliterate rest :=
        List.filterMap_cons_none added
      rw [after_add_of_not_added added next, chains]
      exact ih next (chains ▸ room)
    | some chain =>
      have chains : addedChains transliterate (source :: rest) = chain :: addedChains transliterate rest :=
        List.filterMap_cons_some added
      have counted : Chain.total (chain :: addedChains transliterate rest) =
          chain.count + Chain.total (addedChains transliterate rest) := rfl
      rw [chains, counted] at room ⊢
      have later := @ih (session.append ((chain.sentenceDraft transliterate number).lowered (number + chain.count)))
        (number + chain.count) (Int.natCast_add number chain.count).symm (by omega)
      rw [after_add_of_added added next (by omega), later]
      simp [Session.append, Draft.lowered, Chain.sentenceDrafts, Int.add_assoc]

end Session

/-! ## Another order -/

/-- Raises the numbers of the top-level items. -/
def Draft.raise (shift : Nat) (draft : Draft) : Draft :=
  draft.rename (Tag.renumber (Equiv.addRight (shift : Int)))

/-- The same rules and blocks, in any order. -/
def Draft.IsPerm (first second : Draft) : Prop :=
  first.rules.Perm second.rules ∧ first.blocks.Perm second.blocks

namespace Draft

variable {first second third : Draft}

theorem IsPerm.refl (draft : Draft) : draft.IsPerm draft := ⟨.refl _, .refl _⟩

theorem IsPerm.trans (one : first.IsPerm second) (two : second.IsPerm third) : first.IsPerm third :=
  ⟨one.1.trans two.1, one.2.trans two.2⟩

theorem IsPerm.append_left (before : Draft) (one : first.IsPerm second) : (before ++ first).IsPerm (before ++ second) :=
  ⟨one.1.append_left _, one.2.append_left _⟩

theorem IsPerm.rename (change : Tag → Tag) (one : first.IsPerm second) :
    (first.rename change).IsPerm (second.rename change) :=
  ⟨one.1.map _, one.2.map _⟩

theorem isPerm_append_swap (first second rest : Draft) :
    (first ++ (second ++ rest)).IsPerm (second ++ (first ++ rest)) := by
  have rules : (first.rules ++ second.rules).Perm (second.rules ++ first.rules) := List.perm_append_comm
  have blocks : (first.blocks ++ second.blocks).Perm (second.blocks ++ first.blocks) := List.perm_append_comm
  constructor
  · simpa only [rules_append, List.append_assoc] using rules.append_right rest.rules
  · simpa only [blocks_append, List.append_assoc] using blocks.append_right rest.blocks

end Draft

/-- The numbering after which a number of items from `start` on have changed places with as many after them. -/
def swapRuns (start : Int) (first second : Nat) : Equiv.Perm Int where
  toFun number :=
    if start ≤ number ∧ number < start + first then number + second
    else if start + first ≤ number ∧ number < start + first + second then number - first
    else number
  invFun number :=
    if start ≤ number ∧ number < start + second then number + first
    else if start + second ≤ number ∧ number < start + second + first then number - second
    else number
  left_inv number := by
    dsimp only
    split_ifs <;> omega
  right_inv number := by
    dsimp only
    split_ifs <;> omega

section Runs

variable {start number : Int} {first second i : Nat}

theorem swapRuns_early (inside : i < first) : swapRuns start first second (start + i) = start + second + i := by
  simp only [swapRuns, Equiv.coe_fn_mk]
  split_ifs <;> omega

theorem swapRuns_late (inside : i < second) : swapRuns start first second (start + first + i) = start + i := by
  simp only [swapRuns, Equiv.coe_fn_mk]
  split_ifs <;> omega

theorem swapRuns_outside (outside : number < start ∨ start + first + second ≤ number) :
    swapRuns start first second number = number := by
  simp only [swapRuns, Equiv.coe_fn_mk]
  split_ifs <;> omega

end Runs

namespace Chain

variable {transliterate : Transliterator} {numbers : Equiv.Perm Int}

theorem rename_sentenceDrafts_of_fixed {chains : List Chain} {number : Int}
    (fixed : ∀ i : Int, number ≤ i → numbers i = i) :
    (sentenceDrafts transliterate number chains).rename (Tag.renumber numbers) =
      sentenceDrafts transliterate number chains := by
  induction chains generalizing number with
  | nil => rfl
  | cons chain rest ih =>
    have first := @rename_sentenceDraft numbers transliterate number number chain fun i _ => fixed _ (by omega)
    rw [sentenceDrafts, Draft.rename_append, first, ih fun i least => fixed i (by omega)]

theorem total_eq_of_perm {chains others : List Chain} (permuted : chains.Perm others) :
    total chains = total others := by
  induction permuted with
  | nil => rfl
  | cons chain _ ih => rw [total, total, ih]
  | swap first second rest =>
    simp only [total]
    omega
  | trans _ _ ihFirst ihSecond => exact ihFirst.trans ihSecond

theorem raise_sentenceDraft (number shift : Nat) (chain : Chain) :
    (chain.sentenceDraft transliterate number).raise shift =
      chain.sentenceDraft transliterate (number + shift : Nat) := by
  refine rename_sentenceDraft transliterate fun i _ => ?_
  show (number : Int) + i + shift = (number + shift : Nat) + i
  omega

variable (transliterate) in
/-- Chains in another order have the same draft, up to the order of its parts and the numbers of the items. -/
theorem exists_renumber_of_perm {chains others : List Chain} (permuted : chains.Perm others) (number : Int) :
    ∃ numbers : Equiv.Perm Int, (∀ i, i < number → numbers i = i) ∧
      ((sentenceDrafts transliterate number chains).rename (Tag.renumber numbers)).IsPerm
        (sentenceDrafts transliterate number others) := by
  -- Numbers below the start stay as they are, so that a renumbering of the later chains leaves the first one alone.
  induction permuted generalizing number with
  | nil => exact ⟨1, fun _ _ => rfl, .refl _⟩
  | @cons chain rest restToo _ ih =>
    obtain ⟨numbers, fixed, same⟩ := ih (number + chain.count)
    have first := @rename_sentenceDraft numbers transliterate number number chain fun i _ => fixed _ (by omega)
    refine ⟨numbers, fun i below => fixed i (by omega), ?_⟩
    rw [sentenceDrafts, Draft.rename_append, first, sentenceDrafts]
    exact same.append_left _
  | swap chain other rest =>
    let numbers := swapRuns number other.count chain.count
    have early := @rename_sentenceDraft numbers transliterate number (number + chain.count) other
      fun _ inside => swapRuns_early inside
    have late := @rename_sentenceDraft numbers transliterate (number + other.count) number chain
      fun _ inside => swapRuns_late inside
    have after := @rename_sentenceDrafts_of_fixed transliterate numbers rest (number + other.count + chain.count)
      fun _ least => swapRuns_outside (.inr least)
    refine ⟨numbers, fun _ below => swapRuns_outside (.inl below), ?_⟩
    have start : number + other.count + chain.count = number + chain.count + other.count := by omega
    simp only [sentenceDrafts, Draft.rename_append]
    rw [early, late, after, start]
    exact Draft.isPerm_append_swap ..
  | trans _ _ ihFirst ihSecond =>
    obtain ⟨earlier, fixed, same⟩ := ihFirst number
    obtain ⟨later, fixedToo, sameToo⟩ := ihSecond number
    refine ⟨later * earlier, fun i below => ?_, ?_⟩
    · rw [Equiv.Perm.mul_apply, fixed i below, fixedToo i below]
    · rw [Tag.renumber_mul, Equiv.Perm.coe_mul, ← Draft.rename_rename]
      exact (same.rename _).trans sameToo

end Chain

namespace Pattern

/-- Generated names tell how they are made. A pattern that is lowered from one number on is lowered to its draft, in
which the names that are given are the symbols of the pattern; from a higher number on it is lowered to the same with
the numbers of the top-level items raised, or fails if one of these cannot be written. Patterns that are added to new
sessions in two orders append drafts that are the same up to a renumbering of the top-level items and the order of
productions and sections, if the numbers of all items can be written; what cannot be added appends nothing in any
order. -/
theorem lower_shift_and_run_perm [Limits] (transliterate : Transliterator) :
    Function.Injective Tag.text ∧
    (∀ (source : Source) (table : NodeTable) (number shift : Nat) (lowered : Lowered), parse source = .ok table →
      table.lower transliterate number = .ok lowered →
      lowered = (table.chain.sentenceDraft transliterate number).lowered lowered.nextNumber ∧
      (table.chain.sentenceDraft transliterate number).foreign =
        table.chain.symbols.filter (fun name => !Name.isFixed name) ∧
      (number + shift + table.chain.count ≤ Nat.pow 10 digitLimit →
        table.lower transliterate (number + shift : Nat) =
          .ok (((table.chain.sentenceDraft transliterate number).raise shift).lowered (lowered.nextNumber + shift))) ∧
      (Nat.pow 10 digitLimit < number + shift + table.chain.count →
        table.lower transliterate (number + shift : Nat) = .error .oversizedNumber)) ∧
    ∀ sources others : List Source, sources.Perm others →
      Chain.total (addedChains transliterate sources) ≤ Nat.pow 10 digitLimit →
      Session.run transliterate {} (sources.map .add) = Session.append {}
        ((addedDraft transliterate sources).lowered (Chain.total (addedChains transliterate sources))) ∧
      Session.run transliterate {} (others.map .add) = Session.append {}
        ((addedDraft transliterate others).lowered (Chain.total (addedChains transliterate sources))) ∧
      ∃ numbers : Equiv.Perm Int,
        ((addedDraft transliterate sources).rename (Tag.renumber numbers)).IsPerm
          (addedDraft transliterate others) := by
  refine ⟨Tag.text_injective, ?_, ?_⟩
  · intro source table number shift lowered accepted lowers
    obtain ⟨fits, said, rfl⟩ := (lower_eq_ok_iff accepted).1 lowers
    refine ⟨rfl, Chain.foreign_sentenceDraft .., fun room => ?_, fun beyond => ?_⟩
    · have next : (number : Int) + table.chain.count + shift = (number + shift : Nat) + table.chain.count := by omega
      rw [lower_move accepted number (number + shift) lowers room, Chain.raise_sentenceDraft]
      exact congrArg (fun last => Except.ok (Draft.lowered _ last)) next.symm
    · rw [NodeTable.lower_eq_sentence]
      exact Chain.sentence_eq_oversized (isKnown_of_parse accepted) (count_pos_of_parse accepted) beyond
  · intro sources others permuted room
    have chains : (addedChains transliterate sources).Perm (addedChains transliterate others) := permuted.filterMap _
    have totals := Chain.total_eq_of_perm chains
    have first := @Session.run_add transliterate {} 0 _ sources rfl (by omega)
    have second := @Session.run_add transliterate {} 0 _ others rfl (by omega)
    rw [Int.natCast_zero, Int.zero_add] at first second
    obtain ⟨numbers, _, same⟩ := Chain.exists_renumber_of_perm transliterate chains 0
    exact ⟨first, totals ▸ second, numbers, same⟩

/-- A literal, and a symbol with the name of its item. -/
def namesakeSource : Source := ⟨"'a' <WORD_1>", "example", 1⟩

/-- Its grammar, with the numbers of the two items. -/
def namesakeGrammar (first second : String) : String :=
  "S\t: NS_B ROOT_" ++ first ++ " ROOT_" ++ second ++ " NS_E\nROOT_" ++ first ++ "\t: WORD_" ++ first ++ "\nROOT_" ++
    second ++ "\t: WORD_" ++ second ++ "\nWORD_" ++ second ++ "\t: WORD_1\n"

section
open scoped Workstation

/-- The symbol keeps its name, though at first its item has the same. -/
theorem lower_shift_and_run_perm_namesake : ∃ table lowered shifted, parse namesakeSource = .ok table ∧
    table.lower Transliterator.verbatim 0 = .ok lowered ∧ lowered.grammar.text = namesakeGrammar "0" "1" ∧
    table.lower Transliterator.verbatim 7 = .ok shifted ∧ shifted.grammar.text = namesakeGrammar "7" "8" := by
  obtain ⟨table, accepted, lowers, raised, room⟩ : ∃ table, parse namesakeSource = .ok table ∧
      (table.lower Transliterator.verbatim 0).map (fun lowered => lowered.grammar.text) =
        .ok (namesakeGrammar "0" "1") ∧
      ((table.chain.sentenceDraft Transliterator.verbatim 0).raise 7).grammar.text = namesakeGrammar "7" "8" ∧
      0 + 7 + table.chain.count ≤ Nat.pow 10 digitLimit :=
    ⟨_, rfl, by decide +kernel, by decide +kernel, by decide +kernel⟩
  obtain ⟨lowered, done, text⟩ := map_eq_ok_iff.1 lowers
  obtain ⟨_, _, shifted, _⟩ :=
    (lower_shift_and_run_perm Transliterator.verbatim).2.1 namesakeSource table 0 7 lowered accepted done
  exact ⟨table, lowered, _, accepted, done, text, shifted room, raised⟩

end

/-- Two literals. -/
def pairSource : Source := ⟨"'a' 'b'", "example", 1⟩

section
open scoped Workstation

/-- From 0 on the pattern is lowered, and from the last number on that can be written it is not. -/
theorem lower_pair_beyond : ∃ table, parse pairSource = .ok table ∧
    (table.lower Transliterator.verbatim 0).map Lowered.nextNumber = .ok 2 ∧
    table.lower Transliterator.verbatim (0 + (Nat.pow 10 digitLimit - 1) : Nat) = .error .oversizedNumber := by
  obtain ⟨table, accepted, lowers, two⟩ : ∃ table, parse pairSource = .ok table ∧
      (table.lower Transliterator.verbatim 0).map Lowered.nextNumber = .ok 2 ∧ table.chain.count = 2 :=
    ⟨_, rfl, by decide +kernel, by decide +kernel⟩
  refine ⟨table, accepted, lowers, ?_⟩
  rw [NodeTable.lower_eq_sentence]
  exact Chain.sentence_eq_oversized (isKnown_of_parse accepted) (count_pos_of_parse accepted) (by omega)

end

end Pattern

end Utterance
