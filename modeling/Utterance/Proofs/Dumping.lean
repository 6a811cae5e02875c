import Utterance.Node.Dump
import Utterance.Proofs.Identifiers
import Utterance.Proofs.SexpText

/-!
# What a dump tells

Tables that are dumped alike are lowered alike (`lower_eq_of_dump_eq`). A dump does not show everything there is in a
table: placeholders are left out, of a group only its children are seen, and the end of an alternative only where
another one follows. What is shown can be read off the text, and lowering looks at nothing else.
-/

namespace Utterance
set_option autoImplicit false

/-! ## Pieces -/

theorem map_length_splitAfter {α β : Type} {first : List (α × Bool)} {second : List (β × Bool)}
    (flags : first.map Prod.snd = second.map Prod.snd) :
    (splitAfter first).map List.length = (splitAfter second).map List.length := by
  have plain : ∀ {γ : Type} (members : List (γ × Bool)), (splitAfter members).map List.length =
      (splitAfter ((members.map Prod.snd).map fun closes => ((), closes))).map List.length := by
    intro γ members
    have erased := splitAfter_map (fun _ : γ => ()) members
    rw [List.map_map, Function.comp_def, erased, List.map_map]
    exact List.map_congr_left fun piece _ => (List.length_map _).symm
  rw [plain first, plain second, flags]

/-- Where lists are cut depends on the flags of their members only. -/
theorem splitAfter_eq_of_flags {α β : Type} {first second : List (α × Bool)} {one other : List (β × Bool)}
    (flags : first.map Prod.snd = one.map Prod.snd) (flagsToo : second.map Prod.snd = other.map Prod.snd)
    (members : one.map Prod.fst = other.map Prod.fst) (same : splitAfter first = splitAfter second) :
    splitAfter one = splitAfter other := by
  rw [List.eq_iff_flatten_eq, flatten_splitAfter, flatten_splitAfter]
  refine ⟨members, ?_⟩
  rw [← map_length_splitAfter flags, ← map_length_splitAfter flagsToo, same]

/-! ## Items -/

/-- What stands before the repetition of an item. -/
def repeatMark : Sexp := .symbol ":repeat"

theorem Repetition.form_injective {one other : Repetition} {form : Option Sexp} (formed : one.form = .ok form)
    (formedToo : other.form = .ok form) : one = other := by
  cases one with
  | other kind least most => cases formed
  | _ =>
    cases formed
    cases other <;> simp_all [Repetition.form, Sexp.ofList]

theorem Repetition.isKnown_of_attach {repetition : Repetition} {core : List Sexp} {item : Sexp}
    (attached : repetition.attach core = .ok item) : repetition.IsKnown := by
  cases repetition with
  | other kind least most => cases attached
  | _ => trivial

theorem Repetition.attach_injective {one other : Repetition} {core coreToo : List Sexp} {item : Sexp}
    (attached : one.attach core = .ok item) (attachedToo : other.attach coreToo = .ok item)
    (bare : repeatMark ∉ core) (bareToo : repeatMark ∉ coreToo) : one = other ∧ core = coreToo := by
  obtain ⟨form, formed, same⟩ := map_eq_ok_iff.1 attached
  obtain ⟨formToo, formedToo, rfl⟩ := map_eq_ok_iff.1 attachedToo
  cases form with
  | none =>
    cases formToo with
    | none => exact ⟨form_injective formed formedToo, Sexp.ofList_injective same⟩
    | some form =>
      rw [Sexp.ofList_injective same] at bare
      exact absurd (by simp [repeatMark]) bare
  | some form =>
    cases formToo with
    | none =>
      rw [← Sexp.ofList_injective same] at bareToo
      exact absurd (by simp [repeatMark]) bareToo
    | some formToo =>
      obtain ⟨sameCore, sameForm⟩ := List.append_inj' (Sexp.ofList_injective same) rfl
      obtain rfl : form = formToo := by simpa using sameForm
      exact ⟨form_injective formed formedToo, sameCore⟩

theorem Leaf.form_injective {one other : Leaf} {core : List Sexp} (formed : one.form = .ok core)
    (formedToo : other.form = .ok core) : one = other := by
  cases one with
  | other kind => cases formed
  | _ =>
    cases formed
    cases other <;> simp_all [Leaf.form]

theorem Leaf.isKnown_of_form {leaf : Leaf} {core : List Sexp} (formed : leaf.form = .ok core) : leaf.IsKnown := by
  cases leaf with
  | other kind => cases formed
  | _ => trivial

theorem Leaf.repeatMark_notMem {leaf : Leaf} {core : List Sexp} (formed : leaf.form = .ok core) : repeatMark ∉ core := by
  cases leaf with
  | other kind => cases formed
  | _ =>
    cases formed
    simp [repeatMark]

/-- What a group is shown as, apart from its repetition. -/
def groupCore (children : List (Sexp × Bool)) : List Sexp :=
  .symbol "group" :: (splitAfter children).map fun items => Sexp.cons (.symbol "alt") (.ofList items)

theorem repeatMark_notMem_groupCore (children : List (Sexp × Bool)) : repeatMark ∉ groupCore children := by
  simp [repeatMark, groupCore]

theorem splitAfter_eq_of_groupCore {one other : List (Sexp × Bool)} (same : groupCore one = groupCore other) :
    splitAfter one = splitAfter other := by
  have shown : Function.Injective fun items => Sexp.cons (.symbol "alt") (.ofList items) :=
    fun _ _ alike => Sexp.ofList_injective (Sexp.cons.inj alike).2
  exact List.map_injective_iff.2 shown (List.cons.inj same).2

theorem Leaf.form_ne_groupCore {leaf : Leaf} {core : List Sexp} (formed : leaf.form = .ok core)
    (children : List (Sexp × Bool)) : core ≠ groupCore children := by
  cases leaf with
  | other kind => cases formed
  | _ =>
    cases formed
    simp [groupCore]

namespace Chain

variable {chain : Chain} {forms : List (Sexp × Bool)}

theorem forms_leaf_eq_ok_iff {content : Leaf} {repetition : Repetition} {closes : Bool} {next : Chain} :
    (leaf content repetition closes next).forms = .ok forms ↔ ∃ core item rest, content.form = .ok core ∧
      repetition.attach core = .ok item ∧ next.forms = .ok rest ∧ forms = (item, closes) :: rest := by
  simp only [Chain.forms, bind_eq_ok_iff]
  constructor
  · rintro ⟨core, formed, item, attached, rest, more, same⟩
    exact ⟨core, item, rest, formed, attached, more, (Except.ok.inj same).symm⟩
  · rintro ⟨core, item, rest, formed, attached, more, rfl⟩
    exact ⟨core, formed, item, attached, rest, more, rfl⟩

theorem forms_group_eq_ok_iff {inner : Chain} {repetition : Repetition} {closes : Bool} {next : Chain} :
    (group inner repetition closes next).forms = .ok forms ↔ ∃ children item rest, inner.forms = .ok children ∧
      repetition.attach (groupCore children) = .ok item ∧ next.forms = .ok rest ∧ forms = (item, closes) :: rest := by
  simp only [Chain.forms, bind_eq_ok_iff]
  constructor
  · rintro ⟨children, formed, item, attached, rest, more, same⟩
    exact ⟨children, item, rest, formed, attached, more, (Except.ok.inj same).symm⟩
  · rintro ⟨children, item, rest, formed, attached, more, rfl⟩
    exact ⟨children, formed, item, attached, rest, more, rfl⟩

/-- What can be dumped has a meaning. -/
theorem isKnown_of_forms (formed : chain.forms = .ok forms) : chain.IsKnown := by
  induction chain generalizing forms with
  | nil => trivial
  | broken index => cases formed
  | leaf content repetition closes next ih =>
    obtain ⟨core, item, rest, coreFormed, attached, more, _⟩ := forms_leaf_eq_ok_iff.1 formed
    exact ⟨Leaf.isKnown_of_form coreFormed, Repetition.isKnown_of_attach attached, ih more⟩
  | group inner repetition closes next ihInner ih =>
    obtain ⟨children, item, rest, innerFormed, attached, more, _⟩ := forms_group_eq_ok_iff.1 formed
    exact ⟨ihInner innerFormed, Repetition.isKnown_of_attach attached, ih more⟩

/-- A dump has an item for each item, with the same flag. -/
theorem map_snd_forms (formed : chain.forms = .ok forms) (number : Int) :
    forms.map Prod.snd = (chain.numbering number).map Prod.snd := by
  induction chain generalizing forms number with
  | nil =>
    cases formed
    rfl
  | broken index => cases formed
  | leaf content repetition closes next ih =>
    obtain ⟨core, item, rest, _, _, more, rfl⟩ := forms_leaf_eq_ok_iff.1 formed
    rw [numbering, List.map_cons, List.map_cons, ih more (number + 1)]
  | group inner repetition closes next _ ih =>
    obtain ⟨children, item, rest, _, _, more, rfl⟩ := forms_group_eq_ok_iff.1 formed
    rw [numbering, List.map_cons, List.map_cons, ih more (number + 1)]

theorem length_forms (formed : chain.forms = .ok forms) : forms.length = chain.count := by
  have flags := congrArg List.length (map_snd_forms formed 0)
  have numbers : ((chain.numbering 0).map Prod.fst).length = chain.count := by
    rw [map_fst_numbering, List.length_map, List.length_range]
  rw [List.length_map, List.length_map] at flags
  rw [List.length_map] at numbers
  rw [flags, numbers]

section Alike

variable {one other : Chain} {formsToo : List (Sexp × Bool)}

/-- Chains that show the same items have the same numbers. -/
theorem map_fst_numbering_eq (formed : one.forms = .ok forms) (formedToo : other.forms = .ok formsToo)
    (same : forms.map Prod.fst = formsToo.map Prod.fst) (number : Int) :
    (one.numbering number).map Prod.fst = (other.numbering number).map Prod.fst := by
  have lengths := congrArg List.length same
  rw [List.length_map, List.length_map, length_forms formed, length_forms formedToo] at lengths
  rw [map_fst_numbering, map_fst_numbering, lengths]

/-- Groups that show the same alternatives are replaced by the same. -/
theorem alternatives_eq (formed : one.forms = .ok forms) (formedToo : other.forms = .ok formsToo)
    (same : splitAfter forms = splitAfter formsToo) (name : String) :
    one.alternatives name = other.alternatives name := by
  have members : forms.map Prod.fst = formsToo.map Prod.fst := by
    rw [← flatten_splitAfter, ← flatten_splitAfter, same]
  have pieces : splitAfter (one.numbering 0) = splitAfter (other.numbering 0) :=
    splitAfter_eq_of_flags (map_snd_forms formed 0) (map_snd_forms formedToo 0)
      (map_fst_numbering_eq formed formedToo members 0) same
  rw [alternatives_eq_ok (isKnown_of_forms formed), alternatives_eq_ok (isKnown_of_forms formedToo), alternativeBodies,
    alternativeBodies, pieces]

/-- A chain that shows a leaf first begins with that leaf. -/
theorem exists_leaf_of_shown {content : Leaf} {repetition : Repetition} {core shown : List Sexp} {item : Sexp}
    (coreFormed : content.form = .ok core) (attached : repetition.attach core = .ok item)
    (formed : chain.forms = .ok forms) (same : forms.map Prod.fst = item :: shown) :
    ∃ closes next rest, chain = leaf content repetition closes next ∧ next.forms = .ok rest ∧
      rest.map Prod.fst = shown := by
  have bare := Leaf.repeatMark_notMem coreFormed
  cases chain with
  | nil =>
    cases formed
    cases same
  | broken index => cases formed
  | leaf contentToo repetitionToo closes next =>
    obtain ⟨coreToo, itemToo, rest, coreFormedToo, attachedToo, more, rfl⟩ := forms_leaf_eq_ok_iff.1 formed
    obtain ⟨rfl, sameRest⟩ := List.cons.inj same
    obtain ⟨rfl, rfl⟩ :=
      Repetition.attach_injective attached attachedToo bare (Leaf.repeatMark_notMem coreFormedToo)
    obtain rfl := Leaf.form_injective coreFormed coreFormedToo
    exact ⟨closes, next, rest, rfl, more, sameRest⟩
  | group inner repetitionToo closes next =>
    obtain ⟨children, itemToo, rest, _, attachedToo, _, rfl⟩ := forms_group_eq_ok_iff.1 formed
    obtain ⟨rfl, _⟩ := List.cons.inj same
    obtain ⟨_, sameCore⟩ :=
      Repetition.attach_injective attached attachedToo bare (repeatMark_notMem_groupCore children)
    exact (Leaf.form_ne_groupCore coreFormed children sameCore).elim

/-- A chain that shows a group first begins with a group that has the same alternatives to show. -/
theorem exists_group_of_shown {children : List (Sexp × Bool)} {repetition : Repetition} {shown : List Sexp}
    {item : Sexp} (attached : repetition.attach (groupCore children) = .ok item) (formed : chain.forms = .ok forms)
    (same : forms.map Prod.fst = item :: shown) :
    ∃ inner childrenToo closes next rest, chain = group inner repetition closes next ∧ inner.forms = .ok childrenToo ∧
      splitAfter children = splitAfter childrenToo ∧ next.forms = .ok rest ∧ rest.map Prod.fst = shown := by
  have bare := repeatMark_notMem_groupCore children
  cases chain with
  | nil =>
    cases formed
    cases same
  | broken index => cases formed
  | leaf content repetitionToo closes next =>
    obtain ⟨core, itemToo, rest, coreFormed, attachedToo, _, rfl⟩ := forms_leaf_eq_ok_iff.1 formed
    obtain ⟨rfl, _⟩ := List.cons.inj same
    obtain ⟨_, sameCore⟩ :=
      Repetition.attach_injective attached attachedToo bare (Leaf.repeatMark_notMem coreFormed)
    exact (Leaf.form_ne_groupCore coreFormed children sameCore.symm).elim
  | group inner repetitionToo closes next =>
    obtain ⟨childrenToo, itemToo, rest, innerFormed, attachedToo, more, rfl⟩ := forms_group_eq_ok_iff.1 formed
    obtain ⟨rfl, sameRest⟩ := List.cons.inj same
    obtain ⟨rfl, sameCore⟩ :=
      Repetition.attach_injective attached attachedToo bare (repeatMark_notMem_groupCore childrenToo)
    exact ⟨inner, childrenToo, closes, next, rest, rfl, innerFormed, splitAfter_eq_of_groupCore sameCore, more, sameRest⟩

/-- Chains that show the same items are lowered alike. -/
theorem lower_eq [Limits] (transliterate : Transliterator) (scope : String) (number : Int) (formed : one.forms = .ok forms)
    (formedToo : other.forms = .ok formsToo) (same : formsToo.map Prod.fst = forms.map Prod.fst) :
    one.lower transliterate scope number = other.lower transliterate scope number := by
  induction one generalizing other forms formsToo scope number with
  | nil =>
    obtain rfl : [] = forms := Except.ok.inj formed
    have empty : other.count = 0 := by
      rw [← length_forms formedToo, List.map_eq_nil_iff.1 same, List.length_nil]
    cases other with
    | nil => rfl
    | broken index => cases formedToo
    | _ => cases empty
  | broken index => cases formed
  | leaf content repetition closes next ih =>
    obtain ⟨core, item, rest, coreFormed, attached, more, rfl⟩ := forms_leaf_eq_ok_iff.1 formed
    obtain ⟨closesToo, nextToo, restToo, rfl, moreToo, sameRest⟩ :=
      exists_leaf_of_shown coreFormed attached formedToo same
    simp only [Chain.lower, ih scope (number + 1) more moreToo sameRest]
  | group inner repetition closes next ihInner ih =>
    obtain ⟨children, item, rest, innerFormed, attached, more, rfl⟩ := forms_group_eq_ok_iff.1 formed
    obtain ⟨innerToo, childrenToo, closesToo, nextToo, restToo, rfl, innerFormedToo, pieces, moreToo, sameRest⟩ :=
      exists_group_of_shown attached formedToo same
    have members : childrenToo.map Prod.fst = children.map Prod.fst := by
      rw [← flatten_splitAfter, ← flatten_splitAfter, pieces]
    simp only [Chain.lower, alternatives_eq innerFormed innerFormedToo pieces,
      ihInner _ 0 innerFormed innerFormedToo members, ih scope (number + 1) more moreToo sameRest]

theorem sentence_eq [Limits] (transliterate : Transliterator) (number : Int) (formed : one.forms = .ok forms)
    (formedToo : other.forms = .ok formsToo) (same : formsToo.map Prod.fst = forms.map Prod.fst) :
    one.sentence transliterate number = other.sentence transliterate number := by
  have numbers := map_fst_numbering_eq formed formedToo same.symm number
  have words := lower_eq transliterate Name.wordScope number formed formedToo same
  simp only [Chain.sentence, numbers_eq_ok (isKnown_of_forms formed), numbers_eq_ok (isKnown_of_forms formedToo), words,
    Bind.bind, Except.bind, numbers]

end Alike

end Chain

/-! ## Dumps are read off their texts -/

theorem Repetition.isReadable_form {repetition : Repetition} {form : Sexp} (formed : repetition.form = .ok (some form)) :
    form.IsReadable false := by
  cases repetition with
  | once => cases formed
  | range least most =>
    cases formed
    exact ⟨⟨rfl, by decide⟩, rfl, rfl, trivial⟩
  | zeroOrMore =>
    cases formed
    exact ⟨⟨rfl, by decide⟩, trivial⟩
  | oneOrMore =>
    cases formed
    exact ⟨⟨rfl, by decide⟩, trivial⟩
  | other kind least most => cases formed

theorem Repetition.isReadable_attach {repetition : Repetition} {core : List Sexp} {item : Sexp}
    (readable : ∀ member ∈ core, member.IsReadable false) (attached : repetition.attach core = .ok item) :
    item.IsReadable false := by
  obtain ⟨form, formed, rfl⟩ := map_eq_ok_iff.1 attached
  cases form with
  | none => exact Sexp.isReadable_ofList readable false
  | some form =>
    refine Sexp.isReadable_ofList (List.forall_mem_append.2 ⟨readable, ?_⟩) false
    rw [List.forall_mem_cons, List.forall_mem_singleton]
    exact ⟨⟨rfl, by decide⟩, isReadable_form formed⟩

theorem Leaf.isReadable_form {leaf : Leaf} {core : List Sexp} (formed : leaf.form = .ok core) :
    ∀ member ∈ core, member.IsReadable false := by
  cases leaf with
  | other kind => cases formed
  | _ =>
    cases formed
    rw [List.forall_mem_cons, List.forall_mem_singleton]
    exact ⟨⟨rfl, by decide⟩, rfl⟩

theorem isReadable_groupCore {children : List (Sexp × Bool)}
    (readable : ∀ child ∈ children, child.1.IsReadable false) :
    ∀ member ∈ groupCore children, member.IsReadable false := by
  rw [groupCore, List.forall_mem_cons, List.forall_mem_map]
  refine ⟨⟨rfl, by decide⟩, fun piece listed => ⟨⟨rfl, by decide⟩, Sexp.isReadable_ofList (fun member inside => ?_) true⟩⟩
  have shown : member ∈ children.map Prod.fst := by
    rw [← flatten_splitAfter]
    exact List.mem_flatten_of_mem listed inside
  obtain ⟨child, found, rfl⟩ := List.mem_map.1 shown
  exact readable child found

namespace Chain

variable {chain : Chain} {forms : List (Sexp × Bool)}

theorem isReadable_forms (formed : chain.forms = .ok forms) : ∀ form ∈ forms, form.1.IsReadable false := by
  induction chain generalizing forms with
  | nil =>
    cases formed
    exact fun _ member => absurd member List.not_mem_nil
  | broken index => cases formed
  | leaf content repetition closes next ih =>
    obtain ⟨core, item, rest, coreFormed, attached, more, rfl⟩ := forms_leaf_eq_ok_iff.1 formed
    exact List.forall_mem_cons.2 ⟨Repetition.isReadable_attach (Leaf.isReadable_form coreFormed) attached, ih more⟩
  | group inner repetition closes next ihInner ih =>
    obtain ⟨children, item, rest, innerFormed, attached, more, rfl⟩ := forms_group_eq_ok_iff.1 formed
    exact List.forall_mem_cons.2
      ⟨Repetition.isReadable_attach (isReadable_groupCore (ihInner innerFormed)) attached, ih more⟩

theorem isReadable_pattern (formed : chain.forms = .ok forms) :
    (Sexp.cons (.symbol "pattern") (.ofList (forms.map Prod.fst))).IsReadable false :=
  ⟨⟨rfl, by decide⟩, Sexp.isReadable_ofList (List.forall_mem_map.2 (isReadable_forms formed)) true⟩

end Chain

namespace NodeTable

variable {table : NodeTable} {text : String}

theorem dump_eq_ok_iff : table.dump = .ok text ↔ ∃ forms, table.chain.forms = .ok forms ∧
    Sexp.render (.cons (.symbol "pattern") (.ofList (forms.map Prod.fst))) = text := by
  simp only [dump_eq_form, Chain.form, map_eq_ok_iff]
  constructor
  · rintro ⟨_, ⟨forms, formed, rfl⟩, rendered⟩
    exact ⟨forms, formed, rendered⟩
  · rintro ⟨forms, formed, rendered⟩
    exact ⟨_, ⟨forms, formed, rfl⟩, rendered⟩

/-- Tables that are dumped alike show the same items. -/
theorem exists_forms_of_dump_eq {first second : NodeTable} (dumped : first.dump = .ok text)
    (dumpedToo : second.dump = .ok text) : ∃ forms formsToo, first.chain.forms = .ok forms ∧
      second.chain.forms = .ok formsToo ∧ formsToo.map Prod.fst = forms.map Prod.fst := by
  obtain ⟨forms, formed, rendered⟩ := dump_eq_ok_iff.1 dumped
  obtain ⟨formsToo, formedToo, renderedToo⟩ := dump_eq_ok_iff.1 dumpedToo
  have same := Sexp.render_injective (Chain.isReadable_pattern formedToo) (Chain.isReadable_pattern formed)
    (renderedToo.trans rendered.symm)
  exact ⟨forms, formsToo, formed, formedToo, Sexp.ofList_injective (Sexp.cons.inj same).2⟩

/-- Tables that are dumped alike are lowered alike: to the same, or failing for the same reason. -/
theorem lower_eq_of_dump_eq [Limits] {first second : NodeTable} (dumped : first.dump = .ok text)
    (dumpedToo : second.dump = .ok text) (transliterate : Transliterator) (number : Int) (scope : Option String) :
    first.lower transliterate number scope = second.lower transliterate number scope := by
  obtain ⟨forms, formsToo, formed, formedToo, same⟩ := exists_forms_of_dump_eq dumped dumpedToo
  cases scope with
  | none =>
    rw [lower_eq_sentence, lower_eq_sentence]
    exact Chain.sentence_eq transliterate number formed formedToo same
  | some scope =>
    rw [lower_eq_chain, lower_eq_chain]
    exact Chain.lower_eq transliterate scope number formed formedToo same

/-- Two alternatives said two or three times, then a quote and a line feed said any number of times. -/
def tidyTable : NodeTable where
  nodes := #[
    { child := some 1, next := some 3, repetition := .range 2 3 },
    { content := "a", next := some 2, closesAlternative := true },
    { content := "b", kind := .symbol },
    { content := "\"\n", repetition := .zeroOrMore }]
  first := some 0

/-- The same with placeholders, with content in the group, and with ends of alternatives where none follows. -/
def clutteredTable : NodeTable where
  nodes := #[
    { next := some 1, closesAlternative := true },
    { content := "c", kind := .other "none", child := some 2, next := some 5, repetition := .range 2 3,
      closesAlternative := true },
    { content := "a", next := some 3, closesAlternative := true },
    { next := some 4, closesAlternative := true, repetition := .oneOrMore },
    { content := "b", kind := .symbol, closesAlternative := true },
    { content := "\"\n", next := some 6, repetition := .zeroOrMore },
    {}]
  first := some 0

section
open scoped Workstation

/-- The two are different chains that are dumped alike. -/
theorem lower_eq_of_dump_eq_cluttered : tidyTable.chain ≠ clutteredTable.chain ∧
    ∃ text, tidyTable.dump = .ok text ∧ clutteredTable.dump = .ok text ∧
      ∀ transliterate number scope,
        tidyTable.lower transliterate number scope = clutteredTable.lower transliterate number scope := by
  have tidy : tidyTable.dump = .ok ("(pattern (group (alt (literal \"a\")) (alt (symbol \"b\")) :repeat (range 2 3)) " ++
      "(literal \"\\\"\\n\" :repeat (zero-or-more)))") := by decide +kernel
  have cluttered : clutteredTable.dump = tidyTable.dump := by decide +kernel
  refine ⟨by decide +kernel, _, tidy, cluttered.trans tidy, ?_⟩
  exact lower_eq_of_dump_eq tidy (cluttered.trans tidy)

end

end NodeTable

end Utterance
