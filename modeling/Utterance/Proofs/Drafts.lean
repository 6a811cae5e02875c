import Mathlib.Algebra.Group.End
import Utterance.Proofs.Identifiers

/-!
# Drafts of grammars

A draft is a grammar and a vocabulary before their names are written out: each symbol tells whether it is given, by the
pattern or by the program, or generated, and a generated one how it is made. A chain is lowered to its draft written
out (`written_sentenceDraft`). A generated name tells how it was made (`Tag.text_injective`), so that changing the
numbers of the top-level items renames what is generated one to one, and leaves what is given as it is.
-/

namespace Utterance
set_option autoImplicit false

/-- The two scopes of top-level items. -/
inductive TopScope where
  | root
  | word
  deriving DecidableEq

/-- The name of the scope. -/
def TopScope.text : TopScope → String
  | .root => Name.rootScope
  | .word => Name.wordScope

/-- How a generated name is made: of a top-level item, of an item in a group, or of what a repeated item repeats. -/
inductive Tag where
  | top (scope : TopScope) (number : Int)
  | child (parent : Tag) (number : Int)
  | loop (item : Tag)
  deriving DecidableEq

namespace Tag

/-- The generated name. -/
def text : Tag → String
  | .top scope number => Name.child scope.text number
  | .child parent number => Name.child parent.text number
  | .loop item => Name.loop item.text

/-- Changes the number of the top-level item. -/
def withNumber (change : Int → Int) : Tag → Tag
  | .top scope number => .top scope (change number)
  | .child parent number => .child (parent.withNumber change) number
  | .loop item => .loop (item.withNumber change)

theorem withNumber_cancel {change back : Int → Int} (cancel : ∀ number, back (change number) = number) (tag : Tag) :
    (tag.withNumber change).withNumber back = tag := by
  induction tag with
  | top scope number => rw [withNumber, withNumber, cancel]
  | child parent number ih => rw [withNumber, withNumber, ih]
  | loop item ih => rw [withNumber, withNumber, ih]

/-- The renaming by which the top-level items are numbered anew. -/
def renumber (numbers : Equiv.Perm Int) : Equiv.Perm Tag where
  toFun := withNumber numbers
  invFun := withNumber numbers.symm
  left_inv := withNumber_cancel numbers.symm_apply_apply
  right_inv := withNumber_cancel numbers.apply_symm_apply

section

variable (numbers : Equiv.Perm Int)

theorem renumber_top (scope : TopScope) (number : Int) :
    renumber numbers (.top scope number) = .top scope (numbers number) := rfl

theorem renumber_child (parent : Tag) (number : Int) :
    renumber numbers (parent.child number) = (renumber numbers parent).child number := rfl

theorem renumber_mul (later earlier : Equiv.Perm Int) :
    renumber (later * earlier) = renumber later * renumber earlier := by
  ext tag
  induction tag with
  | top scope number => rfl
  | child parent number ih => exact congrArg (Tag.child · number) ih
  | loop item ih => exact congrArg Tag.loop ih

end

/-- What stands before the last underscore of the name. -/
def stem : Tag → String
  | .top scope _ => scope.text
  | .child parent _ => parent.text
  | .loop item => item.text

/-- What stands after the last underscore of the name. -/
def last : Tag → String
  | .top _ number => toString number
  | .child _ number => toString number
  | .loop _ => "LOOP"

theorem toList_text (tag : Tag) : tag.text.toList = tag.stem.toList ++ '_' :: tag.last.toList := by
  cases tag <;> simp [text, stem, last, Name.child, Name.loop]

theorem underscore_notMem_last (tag : Tag) : '_' ∉ tag.last.toList := by
  cases tag with
  | top scope number => exact Name.underscore_notMem_number number
  | child parent number => exact Name.underscore_notMem_number number
  | loop item => exact (by decide : '_' ∉ "LOOP".toList)

theorem underscore_mem_text (tag : Tag) : '_' ∈ tag.text.toList := by
  simp [toList_text]

/-- A name is cut at its last underscore in one way. -/
theorem stem_eq_and_last_eq {first second : Tag} (same : first.text = second.text) :
    first.stem = second.stem ∧ first.last = second.last := by
  have lists : (first.stem.toList ++ '_' :: first.last.toList).reverse =
      (second.stem.toList ++ '_' :: second.last.toList).reverse := by
    rw [← toList_text, ← toList_text, same]
  simp only [List.reverse_append, List.reverse_cons, List.append_assoc, List.singleton_append] at lists
  have lasts : first.last.toList.reverse = second.last.toList.reverse :=
    Name.eq_of_append_eq (by simpa using underscore_notMem_last first) (by simpa using underscore_notMem_last second)
      (by simp) (by simp) lists
  rw [lasts, List.append_cancel_left_eq, List.cons.injEq] at lists
  exact ⟨String.toList_inj.1 (List.reverse_injective lists.2), String.toList_inj.1 (List.reverse_injective lasts)⟩

theorem scope_ne_text (scope : TopScope) (tag : Tag) : scope.text ≠ tag.text := by
  intro same
  have member := underscore_mem_text tag
  rw [← same] at member
  cases scope with
  | root => exact absurd member (by decide : '_' ∉ Name.rootScope.toList)
  | word => exact absurd member (by decide : '_' ∉ Name.wordScope.toList)

theorem number_ne_loop (number : Int) : toString number ≠ "LOOP" := by
  intro same
  have letter : 'L' ∈ (toString number).toList := by
    rw [same]
    decide
  exact absurd (Name.isDigit_of_mem_number letter) (by decide)

theorem scope_injective {first second : TopScope} (same : first.text = second.text) : first = second := by
  cases first <;> cases second <;> first | rfl | exact absurd same (by decide)

/-- A generated name tells how it was made. -/
theorem text_injective : Function.Injective text := by
  -- A name is taken apart from its end: what stands before the last underscore is again a name, or a scope, which has
  -- no underscore.
  intro first
  induction first with
  | top scope number =>
    intro second same
    obtain ⟨stems, lasts⟩ := stem_eq_and_last_eq same
    cases second with
    | top scopeToo numberToo =>
      rw [scope_injective stems, Name.number_injective (congrArg String.toList lasts)]
    | child parent numberToo => exact absurd stems (scope_ne_text scope parent)
    | loop item => exact absurd stems (scope_ne_text scope item)
  | child parent number ih =>
    intro second same
    obtain ⟨stems, lasts⟩ := stem_eq_and_last_eq same
    cases second with
    | top scope numberToo => exact absurd stems.symm (scope_ne_text scope parent)
    | child parentToo numberToo => rw [ih stems, Name.number_injective (congrArg String.toList lasts)]
    | loop item => exact absurd lasts (number_ne_loop number)
  | loop item ih =>
    intro second same
    obtain ⟨stems, lasts⟩ := stem_eq_and_last_eq same
    cases second with
    | top scope number => exact absurd stems.symm (scope_ne_text scope item)
    | child parent number => exact absurd lasts.symm (number_ne_loop number)
    | loop itemToo => rw [ih stems]

end Tag

/-- A symbol of a grammar: a name that is given, or one that is generated. -/
inductive Symbol where
  | given (name : String)
  | generated (tag : Tag)
  deriving DecidableEq

namespace Symbol

/-- The symbol as it is written. -/
def text : Symbol → String
  | .given name => name
  | .generated tag => tag.text

/-- Renames what is generated. -/
def rename (change : Tag → Tag) : Symbol → Symbol
  | .given name => .given name
  | .generated tag => .generated (change tag)

/-- The name of a symbol that is given. -/
def given? : Symbol → Option String
  | .given name => some name
  | .generated _ => none

end Symbol

/-- A production that is not written out. -/
structure Rule where
  name : Symbol
  symbols : List Symbol
  deriving DecidableEq

/-- A section that is not written out. -/
structure Block where
  tag : Tag
  entries : List Entry
  deriving DecidableEq

/-- A grammar and a vocabulary that are not written out. -/
structure Draft where
  rules : List Rule
  blocks : List Block
  deriving DecidableEq

/-- The production that a rule is written as. -/
def Rule.written (rule : Rule) : Production := ⟨rule.name.text, rule.symbols.map Symbol.text⟩

/-- The section that a block is written as. -/
def Block.written (block : Block) : Section := ⟨block.tag.text, block.entries⟩

/-- Renames what is generated. -/
def Rule.rename (change : Tag → Tag) (rule : Rule) : Rule :=
  ⟨rule.name.rename change, rule.symbols.map (Symbol.rename change)⟩

/-- Renames what is generated. -/
def Block.rename (change : Tag → Tag) (block : Block) : Block := ⟨change block.tag, block.entries⟩

theorem Symbol.rename_rename (later earlier : Tag → Tag) (symbol : Symbol) :
    (symbol.rename earlier).rename later = symbol.rename (later ∘ earlier) := by
  cases symbol <;> rfl

theorem Rule.rename_rename (later earlier : Tag → Tag) (rule : Rule) :
    (rule.rename earlier).rename later = rule.rename (later ∘ earlier) := by
  simp only [Rule.rename, Symbol.rename_rename, List.map_map, Function.comp_def]

namespace Draft

/-- The grammar, written out. -/
def grammar (draft : Draft) : Grammar := draft.rules.map Rule.written

/-- The vocabulary, written out. -/
def vocabulary (draft : Draft) : Vocabulary := draft.blocks.map Block.written

/-- What a chain with that draft is lowered to, given the number after its last item. -/
def lowered (draft : Draft) (nextNumber : Int) : Lowered := ⟨draft.grammar, draft.vocabulary, nextNumber⟩

/-- Renames what is generated. -/
def rename (change : Tag → Tag) (draft : Draft) : Draft :=
  ⟨draft.rules.map (Rule.rename change), draft.blocks.map (Block.rename change)⟩

/-- The names on right-hand sides that are given, in order. -/
def references (draft : Draft) : List String :=
  draft.rules.flatMap fun rule => rule.symbols.filterMap Symbol.given?

instance : Append Draft where
  append first second := ⟨first.rules ++ second.rules, first.blocks ++ second.blocks⟩

variable (first second : Draft)

@[simp] theorem rules_append : (first ++ second).rules = first.rules ++ second.rules := rfl

@[simp] theorem blocks_append : (first ++ second).blocks = first.blocks ++ second.blocks := rfl

@[simp] theorem grammar_append : (first ++ second).grammar = first.grammar ++ second.grammar := List.map_append

@[simp] theorem vocabulary_append : (first ++ second).vocabulary = first.vocabulary ++ second.vocabulary :=
  List.map_append

@[simp] theorem references_append : (first ++ second).references = first.references ++ second.references :=
  List.flatMap_append

@[simp] theorem rename_append (change : Tag → Tag) :
    (first ++ second).rename change = first.rename change ++ second.rename change := by
  rw [rename, rules_append, blocks_append, List.map_append, List.map_append]
  rfl

theorem rename_rename (later earlier : Tag → Tag) (draft : Draft) :
    (draft.rename earlier).rename later = draft.rename (later ∘ earlier) := by
  simp only [rename, List.map_map, Function.comp_def, Rule.rename_rename]
  rfl

end Draft

/-! ## Items -/

namespace Repetition

/-- The bodies of `left` numbers of times, from `count` on, told by the symbols for noise and for what is repeated. -/
def countedBodiesOf {α : Type} (noise body : α) : (left : Nat) → (count : Int) → List (List α)
  | 0, _ => []
  | left + 1, count =>
    (if count = 0 then [noise] else List.replicate count.toNat body) :: countedBodiesOf noise body left (count + 1)

/-- The bodies by which an item is repeated, told by the symbols for noise, for the item and for what is repeated. -/
def bodiesOf {α : Type} (noise item body : α) : Repetition → List (List α)
  | .once => []
  | .range least most => countedBodiesOf noise body (most + 1 - least).toNat least
  | .zeroOrMore => [[noise], [body], [item, body]]
  | .oneOrMore => [[body], [item, body]]
  | .other _ _ _ => []

theorem countedBodies_eq (name : String) (left : Nat) (count : Int) :
    countedBodies name left count = countedBodiesOf Name.noise (Name.loop name) left count := by
  induction left generalizing count with
  | zero => rfl
  | succ left ih => rw [countedBodies, countedBodiesOf, ih, countedBody]

theorem bodies_eq (name : String) (repetition : Repetition) :
    repetition.bodies name = repetition.bodiesOf Name.noise name (Name.loop name) := by
  cases repetition with
  | range least most => exact countedBodies_eq name _ least
  | _ => rfl

variable {α β : Type} (change : α → β) (noise item body : α)

theorem map_countedBodiesOf (left : Nat) (count : Int) :
    (countedBodiesOf noise body left count).map (List.map change) =
      countedBodiesOf (change noise) (change body) left count := by
  induction left generalizing count with
  | zero => rfl
  | succ left ih =>
    rw [countedBodiesOf, countedBodiesOf, List.map_cons, ih]
    split
    · rfl
    · rw [List.map_replicate]

theorem map_bodiesOf (repetition : Repetition) :
    (repetition.bodiesOf noise item body).map (List.map change) =
      repetition.bodiesOf (change noise) (change item) (change body) := by
  cases repetition with
  | range least most => exact map_countedBodiesOf change noise body _ least
  | _ => rfl

/-- The rules by which an item is repeated. -/
def rules (tag : Tag) (repetition : Repetition) : List Rule :=
  (repetition.bodiesOf (.given Name.noise) (.generated tag) (.generated tag.loop)).map (Rule.mk (.generated tag))

/-- How the name is made under which an item goes on. -/
def bodyTag (tag : Tag) : Repetition → Tag
  | .once => tag
  | _ => tag.loop

end Repetition

/-- The draft of a leaf. -/
def Leaf.draft (transliterate : Transliterator) (tag : Tag) : Leaf → Draft
  | .literal text => ⟨[], [⟨tag, [⟨text, transliterate.phones text⟩]⟩]⟩
  | .symbol reference => ⟨[⟨.generated tag, [.given reference]⟩], []⟩
  | .other _ => ⟨[], []⟩

namespace Chain

/-- The rules of a group, one for each alternative. -/
def alternativeRules (tag : Tag) (inner : Chain) : List Rule :=
  (splitAfter (inner.numbering 0)).map fun alternative =>
    ⟨.generated tag, alternative.map fun number => .generated (tag.child number)⟩

/-- The draft of the items of a chain, numbered from `number`, the names of items being made by `item`. -/
def draft (transliterate : Transliterator) : (item : Int → Tag) → (number : Int) → Chain → Draft
  | _, _, .nil => ⟨[], []⟩
  | _, _, .broken _ => ⟨[], []⟩
  | item, number, .leaf content repetition _ next =>
    ⟨repetition.rules (item number), []⟩ ++ content.draft transliterate (repetition.bodyTag (item number)) ++
      next.draft transliterate item (number + 1)
  | item, number, .group inner repetition _ next =>
    let body := repetition.bodyTag (item number)
    ⟨repetition.rules (item number) ++ inner.alternativeRules body, []⟩ ++ inner.draft transliterate body.child 0 ++
      next.draft transliterate item (number + 1)

/-- The draft of the sentence of the roots with the given numbers. -/
def rootDraft (numbers : List Int) : Draft where
  rules :=
    ⟨.given Name.start, .given Name.silenceBegin :: numbers.map (fun number => .generated (.top .root number)) ++
      [.given Name.silenceEnd]⟩ ::
    numbers.map fun number => ⟨.generated (.top .root number), [.generated (.top .word number)]⟩
  blocks := []

/-- The draft of a top-level chain. -/
def sentenceDraft (transliterate : Transliterator) (number : Int) (chain : Chain) : Draft :=
  rootDraft ((chain.numbering number).map Prod.fst) ++ chain.draft transliterate (.top .word) number

end Chain

/-! ## Writing a draft out -/

theorem Repetition.text_bodyTag (tag : Tag) (repetition : Repetition) :
    (repetition.bodyTag tag).text = repetition.bodyName tag.text := by
  cases repetition <;> rfl

theorem Repetition.map_written_rules (tag : Tag) (repetition : Repetition) :
    (repetition.rules tag).map Rule.written = (repetition.bodies tag.text).map (Production.mk tag.text) := by
  have texts := repetition.map_bodiesOf Symbol.text (.given Name.noise) (.generated tag) (.generated tag.loop)
  rw [bodies_eq, rules, List.map_map]
  refine Eq.trans ?_ (congrArg (List.map (Production.mk tag.text)) texts)
  rw [List.map_map]
  rfl

theorem Leaf.written_draft (transliterate : Transliterator) (tag : Tag) (leaf : Leaf) :
    (leaf.draft transliterate tag).grammar = leaf.productions tag.text ∧
      (leaf.draft transliterate tag).vocabulary = leaf.sections transliterate tag.text := by
  cases leaf <;> exact ⟨rfl, rfl⟩

namespace Chain

theorem map_written_alternativeRules (tag : Tag) (inner : Chain) :
    (inner.alternativeRules tag).map Rule.written =
      (inner.alternativeBodies tag.text).map (Production.mk tag.text) := by
  rw [alternativeRules, alternativeBodies, List.map_map, List.map_map]
  refine List.map_congr_left fun alternative _ => ?_
  simp only [Function.comp_apply, Rule.written, Symbol.text, List.map_map, Production.mk.injEq, true_and]
  rfl

variable (transliterate : Transliterator)

theorem written_draft {scope : String} {item : Int → Tag}
    (named : ∀ number, (item number).text = Name.child scope number) (number : Int) (chain : Chain) :
    (chain.draft transliterate item number).grammar = chain.productions scope number ∧
      (chain.draft transliterate item number).vocabulary = chain.sections transliterate scope number := by
  induction chain generalizing scope item number with
  | nil => exact ⟨rfl, rfl⟩
  | broken index => exact ⟨rfl, rfl⟩
  | leaf content repetition closes next ih =>
    obtain ⟨leafGrammar, leafVocabulary⟩ := content.written_draft transliterate (repetition.bodyTag (item number))
    obtain ⟨restGrammar, restVocabulary⟩ := ih named (number + 1)
    rw [repetition.text_bodyTag, named] at leafGrammar leafVocabulary
    simp only [draft, productions, sections, Draft.grammar_append, Draft.vocabulary_append, leafGrammar, leafVocabulary,
      restGrammar, restVocabulary]
    simp only [Draft.grammar, Draft.vocabulary, Repetition.map_written_rules, named, List.map_nil, List.nil_append,
      and_self]
  | group inner repetition closes next ihInner ih =>
    have children : ∀ position, ((repetition.bodyTag (item number)).child position).text =
        Name.child (repetition.bodyTag (item number)).text position := fun _ => rfl
    obtain ⟨innerGrammar, innerVocabulary⟩ := ihInner children 0
    obtain ⟨restGrammar, restVocabulary⟩ := ih named (number + 1)
    rw [repetition.text_bodyTag, named] at innerGrammar innerVocabulary
    simp only [draft, productions, sections, Draft.grammar_append, Draft.vocabulary_append, innerGrammar,
      innerVocabulary, restGrammar, restVocabulary]
    simp only [Draft.grammar, Draft.vocabulary, List.map_append, Repetition.map_written_rules,
      map_written_alternativeRules, repetition.text_bodyTag, named, List.map_nil, List.nil_append, and_self]

theorem grammar_rootDraft (numbers : List Int) : (rootDraft numbers).grammar = rootProductions numbers := by
  simp only [Draft.grammar, rootDraft, rootProductions, Rule.written, List.map_cons, List.map_append, List.map_map]
  rfl

/-- A top-level chain is lowered to its draft, written out. -/
theorem written_sentenceDraft (number : Int) (chain : Chain) :
    chain.sentenceLowered transliterate number =
      (chain.sentenceDraft transliterate number).lowered (number + chain.count) := by
  have words : ∀ position, (Tag.top .word position).text = Name.child Name.wordScope position := fun _ => rfl
  obtain ⟨grammar, vocabulary⟩ := written_draft transliterate words number chain
  rw [sentenceLowered, Draft.lowered, sentenceDraft, Draft.grammar_append, Draft.vocabulary_append, grammar, vocabulary,
    grammar_rootDraft]
  rfl

end Chain

/-! ## Numbering anew -/

section

variable (numbers : Equiv.Perm Int)

theorem Repetition.renumber_bodyTag (tag : Tag) (repetition : Repetition) :
    Tag.renumber numbers (repetition.bodyTag tag) = repetition.bodyTag (Tag.renumber numbers tag) := by
  cases repetition <;> rfl

theorem Repetition.map_rename_rules (tag : Tag) (repetition : Repetition) :
    (repetition.rules tag).map (Rule.rename (Tag.renumber numbers)) = repetition.rules (Tag.renumber numbers tag) := by
  have symbols := repetition.map_bodiesOf (Symbol.rename (Tag.renumber numbers)) (.given Name.noise) (.generated tag)
    (.generated tag.loop)
  rw [rules, List.map_map]
  refine Eq.trans ?_ (congrArg (List.map (Rule.mk (.generated (Tag.renumber numbers tag)))) symbols)
  rw [List.map_map]
  rfl

theorem Leaf.rename_draft (transliterate : Transliterator) (tag : Tag) (leaf : Leaf) :
    (leaf.draft transliterate tag).rename (Tag.renumber numbers) =
      leaf.draft transliterate (Tag.renumber numbers tag) := by
  cases leaf <;> rfl

end

namespace Chain

theorem map_rename_alternativeRules (numbers : Equiv.Perm Int) (tag : Tag) (inner : Chain) :
    (inner.alternativeRules tag).map (Rule.rename (Tag.renumber numbers)) =
      inner.alternativeRules (Tag.renumber numbers tag) := by
  rw [alternativeRules, alternativeRules, List.map_map]
  refine List.map_congr_left fun alternative _ => ?_
  simp only [Function.comp_apply, Rule.rename, Symbol.rename, List.map_map, Rule.mk.injEq, true_and]
  rfl

/-- What two numberings share from their starts on, they share after the first item. -/
theorem agree_succ {α : Type} {item other : Int → α} {number start : Int} {count : Nat}
    (agree : ∀ i : Nat, i < count + 1 → item (number + i) = other (start + i)) :
    item number = other start ∧ ∀ i : Nat, i < count → item (number + 1 + i) = other (start + 1 + i) := by
  refine ⟨by simpa using agree 0 (Nat.succ_pos _), fun i inside => ?_⟩
  have shift : ∀ first : Int, first + 1 + (i : Int) = first + ((i + 1 : Nat) : Int) := by
    intro first
    omega
  rw [shift, shift]
  exact agree (i + 1) (Nat.succ_lt_succ inside)

variable {numbers : Equiv.Perm Int} (transliterate : Transliterator)

/-- Where the items of a chain are renamed to those of another numbering, so is its draft. -/
theorem rename_draft {item other : Int → Tag} {number start : Int} {chain : Chain}
    (items : ∀ i : Nat, i < chain.count → Tag.renumber numbers (item (number + i)) = other (start + i)) :
    (chain.draft transliterate item number).rename (Tag.renumber numbers) = chain.draft transliterate other start := by
  induction chain generalizing item other number start with
  | nil => rfl
  | broken index => rfl
  | leaf content repetition closes next ih =>
    obtain ⟨first, later⟩ := @agree_succ Tag (fun n => Tag.renumber numbers (item n)) other number start _ items
    have rest := ih later
    simp only [draft, Draft.rename_append, Leaf.rename_draft, repetition.renumber_bodyTag, rest, first]
    simp only [Draft.rename, Repetition.map_rename_rules, first, List.map_nil]
  | group inner repetition closes next ihInner ih =>
    obtain ⟨first, later⟩ := @agree_succ Tag (fun n => Tag.renumber numbers (item n)) other number start _ items
    have rest := ih later
    have within := @ihInner (repetition.bodyTag (item number)).child (repetition.bodyTag (other start)).child 0 0
      fun i _ => by rw [Tag.renumber_child, repetition.renumber_bodyTag, first]
    simp only [draft, Draft.rename_append, within, rest]
    simp only [Draft.rename, List.map_append, Repetition.map_rename_rules, map_rename_alternativeRules,
      repetition.renumber_bodyTag, first, List.map_nil]

theorem rename_rootDraft (list : List Int) :
    (rootDraft list).rename (Tag.renumber numbers) = rootDraft (list.map numbers) := by
  simp only [Draft.rename, rootDraft, Rule.rename, List.map_cons, List.map_append, List.map_map]
  rfl

/-- Where the numbers of a top-level chain are changed to those from another start, so is its draft. -/
theorem rename_sentenceDraft {number start : Int} {chain : Chain}
    (moved : ∀ i : Nat, i < chain.count → numbers (number + i) = start + i) :
    (chain.sentenceDraft transliterate number).rename (Tag.renumber numbers) =
      chain.sentenceDraft transliterate start := by
  have words := @rename_draft numbers transliterate (.top .word) (.top .word) number start chain fun i inside => by
    rw [Tag.renumber_top, moved i inside]
  have roots : ((chain.numbering number).map Prod.fst).map numbers = (chain.numbering start).map Prod.fst := by
    rw [map_fst_numbering, map_fst_numbering, List.map_map]
    exact List.map_congr_left fun i inside => moved i (List.mem_range.1 inside)
  rw [sentenceDraft, Draft.rename_append, rename_rootDraft, roots, words, sentenceDraft]

end Chain

/-! ## What is given -/

/-- Whether the name is that of a terminal of every grammar. -/
def Name.isFixed (name : String) : Bool := fixed.contains name

/-- The names on right-hand sides that the program does not give, in order. -/
def Draft.foreign (draft : Draft) : List String := draft.references.filter fun name => !Name.isFixed name

theorem Draft.foreign_append (first second : Draft) : (first ++ second).foreign = first.foreign ++ second.foreign := by
  rw [foreign, references_append, List.filter_append, foreign, foreign]

/-- Rules that name the terminals of every grammar, and else only what is generated. -/
theorem Draft.foreign_eq_nil {rules : List Rule} {blocks : List Block}
    (fixed : ∀ rule ∈ rules, ∀ name, Symbol.given name ∈ rule.symbols → Name.isFixed name = true) :
    (Draft.mk rules blocks).foreign = [] := by
  rw [foreign, List.filter_eq_nil_iff]
  intro name referred
  obtain ⟨rule, listed, inside⟩ := List.mem_flatMap.1 referred
  obtain ⟨symbol, written, named⟩ := List.mem_filterMap.1 inside
  cases symbol with
  | given other =>
    obtain rfl := Option.some.inj named
    simp [fixed rule listed other written]
  | generated tag => cases named

namespace Repetition

variable {α : Type} {noise item body : α}

theorem eq_of_mem_countedBodiesOf {left : Nat} {count : Int} {symbols : List α}
    (listed : symbols ∈ countedBodiesOf noise body left count) {symbol : α} (inside : symbol ∈ symbols) :
    symbol = noise ∨ symbol = body := by
  induction left generalizing count with
  | zero => exact absurd listed List.not_mem_nil
  | succ left ih =>
    obtain rfl | later := List.mem_cons.1 listed
    · split at inside
      · exact .inl (List.mem_singleton.1 inside)
      · exact .inr (List.eq_of_mem_replicate inside)
    · exact ih later

theorem eq_of_mem_bodiesOf {repetition : Repetition} {symbols : List α}
    (listed : symbols ∈ repetition.bodiesOf noise item body) {symbol : α} (inside : symbol ∈ symbols) :
    symbol = noise ∨ symbol = item ∨ symbol = body := by
  cases repetition with
  | range least most => exact (eq_of_mem_countedBodiesOf listed inside).imp_right .inr
  | zeroOrMore =>
    simp only [bodiesOf, List.mem_cons, List.not_mem_nil, or_false] at listed
    obtain rfl | rfl | rfl := listed <;> simp_all
  | oneOrMore =>
    simp only [bodiesOf, List.mem_cons, List.not_mem_nil, or_false] at listed
    obtain rfl | rfl := listed <;> simp_all
  | _ => exact absurd listed List.not_mem_nil

theorem foreign_rules (tag : Tag) (repetition : Repetition) : (Draft.mk (repetition.rules tag) []).foreign = [] := by
  refine Draft.foreign_eq_nil fun rule listed name written => ?_
  obtain ⟨symbols, bodied, rfl⟩ := List.mem_map.1 listed
  obtain same | same | same := eq_of_mem_bodiesOf bodied written
  · obtain rfl := Symbol.given.inj same
    decide
  · cases same
  · cases same

end Repetition

theorem Leaf.foreign_draft (transliterate : Transliterator) (tag : Tag) (leaf : Leaf) :
    (leaf.draft transliterate tag).foreign = leaf.symbol?.toList.filter fun name => !Name.isFixed name := by
  cases leaf <;> rfl

namespace Chain

theorem foreign_alternativeRules (tag : Tag) (inner : Chain) :
    (Draft.mk (inner.alternativeRules tag) []).foreign = [] := by
  refine Draft.foreign_eq_nil fun rule listed name written => ?_
  obtain ⟨alternative, _, rfl⟩ := List.mem_map.1 listed
  obtain ⟨number, _, same⟩ := List.mem_map.1 written
  cases same

theorem foreign_draft (transliterate : Transliterator) (item : Int → Tag) (number : Int) (chain : Chain) :
    (chain.draft transliterate item number).foreign = chain.symbols.filter fun name => !Name.isFixed name := by
  induction chain generalizing item number with
  | nil => rfl
  | broken index => rfl
  | leaf content repetition closes next ih =>
    rw [draft, Draft.foreign_append, Draft.foreign_append, Repetition.foreign_rules, Leaf.foreign_draft, ih,
      List.nil_append, ← List.filter_append, symbols, symbols, leaves, List.filterMap_cons]
    cases content.symbol? <;> rfl
  | group inner repetition closes next ihInner ih =>
    have split : ∀ first second : List Rule, Draft.mk (first ++ second) [] = ⟨first, []⟩ ++ ⟨second, []⟩ :=
      fun _ _ => rfl
    rw [draft, split, Draft.foreign_append, Draft.foreign_append, Draft.foreign_append, Repetition.foreign_rules,
      foreign_alternativeRules, ihInner, ih, List.nil_append, List.nil_append, ← List.filter_append, symbols, symbols,
      symbols, leaves, List.filterMap_append]

theorem foreign_rootDraft (numbers : List Int) : (rootDraft numbers).foreign = [] := by
  refine Draft.foreign_eq_nil fun rule listed name written => ?_
  obtain rfl | later := List.mem_cons.1 listed
  · simp only [List.cons_append, List.mem_cons, List.mem_append, List.mem_map, List.not_mem_nil, or_false,
      Symbol.given.injEq, reduceCtorEq, and_false, exists_false, false_or] at written
    obtain rfl | rfl := written <;> decide
  · obtain ⟨number, _, rfl⟩ := List.mem_map.1 later
    cases List.mem_singleton.1 written

/-- The pattern gives its symbols and nothing else. -/
theorem foreign_sentenceDraft (transliterate : Transliterator) (number : Int) (chain : Chain) :
    (chain.sentenceDraft transliterate number).foreign = chain.symbols.filter fun name => !Name.isFixed name := by
  rw [sentenceDraft, Draft.foreign_append, foreign_rootDraft, foreign_draft, List.nil_append]

end Chain

end Utterance
