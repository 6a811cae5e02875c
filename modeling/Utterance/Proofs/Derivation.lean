import Mathlib.Computability.ContextFreeGrammar
import Mathlib.Order.CompletePartialOrder
import Utterance.Grammar.Lowering

/-!
# Derivations

A grammar is read as a context-free grammar over names, some of which are terminals. `Says` is the same relation from
the top down, for a list of names and for any reading of the terminals as words; `yield` is the language of a list
of names. A terminal yields its reading, any other name what its productions yield, and a list the product of its
members. `yield_le` is the induction principle: a reading of all names that every production respects is an upper
bound, which is what a left-recursive name needs.
-/

namespace Utterance
set_option autoImplicit false
open scoped Computability

/-- A name on the right-hand side of a production. -/
def symbolOf (terminals : List String) (name : String) : Symbol String String :=
  if name ∈ terminals then .terminal name else .nonterminal name

/-- The production as a rule of a context-free grammar. -/
def Production.rule (terminals : List String) (production : Production) : ContextFreeRule String String :=
  ⟨production.name, production.symbols.map (symbolOf terminals)⟩

namespace Grammar

/-- The context-free grammar of whole sentences. -/
abbrev contextFree (grammar : Grammar) (terminals : List String) : ContextFreeGrammar String where
  NT := String
  initial := Name.start
  rules := (grammar.map (Production.rule terminals)).toFinset

section Says

variable {α : Type} {grammar : Grammar} {terminals : List String} {reading : String → List α}

/-- Names that are replaced by productions until only terminals are left, and the words these are read as. -/
inductive Says (grammar : Grammar) (terminals : List String) (reading : String → List α) :
    List String → List α → Prop where
  | nil : Says grammar terminals reading [] []
  | terminal {name : String} {rest : List String} {words : List α} (known : name ∈ terminals)
      (tail : Says grammar terminals reading rest words) :
      Says grammar terminals reading (name :: rest) (reading name ++ words)
  | expand {production : Production} {rest : List String} {first last : List α} (member : production ∈ grammar)
      (unknown : production.name ∉ terminals) (body : Says grammar terminals reading production.symbols first)
      (tail : Says grammar terminals reading rest last) :
      Says grammar terminals reading (production.name :: rest) (first ++ last)

theorem Says.append {left right : List String} {first last : List α}
    (before : Says grammar terminals reading left first) (after : Says grammar terminals reading right last) :
    Says grammar terminals reading (left ++ right) (first ++ last) := by
  induction before with
  | nil => exact after
  | terminal known _ ih =>
    rw [List.cons_append, List.append_assoc]
    exact .terminal known ih
  | expand member unknown body _ _ ih =>
    rw [List.cons_append, List.append_assoc]
    exact .expand member unknown body ih

theorem Says.split {left right : List String} {words : List α}
    (said : Says grammar terminals reading (left ++ right) words) :
    ∃ first last, Says grammar terminals reading left first ∧ Says grammar terminals reading right last ∧
      words = first ++ last := by
  induction left generalizing words with
  | nil => exact ⟨[], words, .nil, said, rfl⟩
  | cons name rest ih =>
    cases said with
    | terminal known tail =>
      obtain ⟨first, last, before, after, rfl⟩ := ih tail
      exact ⟨_, last, .terminal known before, after, (List.append_assoc ..).symm⟩
    | expand member unknown body tail =>
      obtain ⟨first, last, before, after, rfl⟩ := ih tail
      exact ⟨_, last, .expand member unknown body before, after, (List.append_assoc ..).symm⟩

/-- The words are the readings of the terminals of a string that the names themselves derive. -/
theorem says_iff_exists_terminals {symbols : List String} {words : List α} :
    Says grammar terminals reading symbols words ↔
      ∃ names, Says grammar terminals (fun name => [name]) symbols names ∧ words = names.flatMap reading := by
  constructor
  · intro said
    induction said with
    | nil => exact ⟨[], .nil, rfl⟩
    | terminal known _ ih =>
      obtain ⟨names, tail, rfl⟩ := ih
      exact ⟨_, .terminal known tail, by simp⟩
    | expand member unknown _ _ ihBody ihTail =>
      obtain ⟨first, body, rfl⟩ := ihBody
      obtain ⟨last, tail, rfl⟩ := ihTail
      exact ⟨_, .expand member unknown body tail, by simp⟩
  · rintro ⟨names, said, rfl⟩
    induction said with
    | nil => exact .nil
    | terminal known _ ih => simpa using Says.terminal known ih
    | expand member unknown _ _ ihBody ihTail => simpa using Says.expand member unknown ihBody ihTail

/-- The part has every production of the grammar by which one of the names can be replaced. -/
def Settles (part grammar : Grammar) (terminals names : List String) : Prop :=
  ∀ production ∈ grammar, production.name ∈ names → production.name ∉ terminals → production ∈ part

/-- More productions say more. -/
theorem Says.mono {part : Grammar} {symbols : List String} {words : List α} (subset : part ⊆ grammar)
    (said : Says part terminals reading symbols words) : Says grammar terminals reading symbols words := by
  induction said with
  | nil => exact .nil
  | terminal known _ ih => exact .terminal known ih
  | expand member unknown _ _ ihBody ihTail => exact .expand (subset member) unknown ihBody ihTail

/-- A part that settles all that stands in it says as much as the grammar. -/
theorem Says.of_settles {part : Grammar} {symbols : List String} {words : List α}
    (closed : ∀ production ∈ part, part.Settles grammar terminals production.symbols)
    (settled : part.Settles grammar terminals symbols) (said : Says grammar terminals reading symbols words) :
    Says part terminals reading symbols words := by
  induction said with
  | nil => exact .nil
  | terminal known _ ih =>
    exact .terminal known (ih fun production member named => settled production member (List.mem_cons_of_mem _ named))
  | expand member unknown _ _ ihBody ihTail =>
    have own := settled _ member (List.mem_cons_self ..) unknown
    exact .expand own unknown (ihBody (closed _ own))
      (ihTail fun production found named => settled production found (List.mem_cons_of_mem _ named))

end Says

section ContextFree

variable {grammar : Grammar} {terminals : List String}

theorem symbolOf_terminal {name : String} (known : name ∈ terminals) : symbolOf terminals name = .terminal name :=
  if_pos known

theorem symbolOf_nonterminal {name : String} (unknown : name ∉ terminals) :
    symbolOf terminals name = .nonterminal name :=
  if_neg unknown

theorem mem_contextFree_rules {rule : ContextFreeRule String String} :
    rule ∈ (grammar.contextFree terminals).rules ↔ ∃ production ∈ grammar, production.rule terminals = rule := by
  simp [contextFree]

theorem Says.derives {symbols names : List String}
    (said : Says grammar terminals (fun name => [name]) symbols names) :
    (grammar.contextFree terminals).Derives (symbols.map (symbolOf terminals)) (names.map Symbol.terminal) := by
  induction said with
  | nil => exact .refl _
  | @terminal name rest words known _ ih =>
    simpa [symbolOf_terminal known] using ih.append_left [Symbol.terminal name]
  | @expand production rest first last member unknown _ _ ihBody ihTail =>
    have step : (grammar.contextFree terminals).Produces [.nonterminal production.name]
        (production.symbols.map (symbolOf terminals)) :=
      ⟨production.rule terminals, mem_contextFree_rules.2 ⟨production, member, rfl⟩,
        ContextFreeRule.Rewrites.input_output⟩
    have expanded := (step.trans_derives ihBody).append_right (rest.map (symbolOf terminals))
    have whole := expanded.trans (ihTail.append_left (first.map Symbol.terminal))
    simpa [symbolOf_nonterminal unknown] using whole

theorem says_of_map_symbolOf {symbols names : List String}
    (same : symbols.map (symbolOf terminals) = names.map Symbol.terminal) :
    Says grammar terminals (fun name => [name]) symbols names := by
  induction symbols generalizing names with
  | nil =>
    cases List.map_eq_nil_iff.1 same.symm
    exact .nil
  | cons symbol rest ih =>
    cases names with
    | nil => simp at same
    | cons name others =>
      simp only [List.map_cons, List.cons.injEq] at same
      obtain ⟨head, tail⟩ := same
      by_cases known : symbol ∈ terminals
      · rw [symbolOf_terminal known] at head
        cases head
        exact .terminal known (ih tail)
      · rw [symbolOf_nonterminal known] at head
        cases head

theorem says_of_derives {symbols names : List String}
    (derived : (grammar.contextFree terminals).Derives (symbols.map (symbolOf terminals))
      (names.map Symbol.terminal)) :
    Says grammar terminals (fun name => [name]) symbols names := by
  generalize form : symbols.map (symbolOf terminals) = start at derived
  generalize goal : names.map Symbol.terminal = done at derived
  induction derived using Relation.ReflTransGen.head_induction_on generalizing symbols with
  | refl => exact says_of_map_symbolOf (form.trans goal.symm)
  | @head start next step _ ih =>
    obtain ⟨rule, used, rewrites⟩ := step
    obtain ⟨production, member, rfl⟩ := mem_contextFree_rules.1 used
    obtain ⟨before, after, split, rfl⟩ := rewrites.exists_parts
    rw [← form, List.append_assoc] at split
    -- the rewritten place is a name of the list, and no terminal
    obtain ⟨left, rest, rfl, rfl, tail⟩ := List.map_eq_append_iff.1 split
    obtain ⟨middle, right, rfl, single, rfl⟩ := List.map_eq_append_iff.1 tail
    obtain ⟨name, rfl, named⟩ := List.map_eq_singleton_iff.1 single
    have unknown : name ∉ terminals := by
      intro known
      rw [symbolOf_terminal known] at named
      cases named
    rw [symbolOf_nonterminal unknown] at named
    cases named
    have said : Says grammar terminals (fun name => [name]) (left ++ production.symbols ++ right) names :=
      ih (by simp [Production.rule])
    obtain ⟨front, last, front', after, rfl⟩ := said.split
    obtain ⟨first, inner, before, body, rfl⟩ := front'.split
    rw [List.append_assoc first]
    exact before.append (.expand member unknown body after)

/-- The strings of terminals that a grammar derives from the start. -/
theorem mem_contextFree_language {names : List String} (unknown : Name.start ∉ terminals) :
    names ∈ (grammar.contextFree terminals).language ↔
      Says grammar terminals (fun name => [name]) [Name.start] names := by
  rw [ContextFreeGrammar.mem_language_iff]
  constructor
  · intro derived
    exact says_of_derives (by simpa [symbolOf_nonterminal unknown] using derived)
  · intro said
    simpa [symbolOf_nonterminal unknown] using said.derives

end ContextFree

section Yield

variable {α : Type} {grammar : Grammar} {terminals : List String} {reading : String → List α}

/-- What a list of names can be replaced by, read as words. -/
def yield (grammar : Grammar) (terminals : List String) (reading : String → List α) (symbols : List String) :
    Language α :=
  {words | Says grammar terminals reading symbols words}

theorem mem_yield {symbols : List String} {words : List α} :
    words ∈ grammar.yield terminals reading symbols ↔ Says grammar terminals reading symbols words :=
  Iff.rfl

@[simp] theorem yield_nil : grammar.yield terminals reading [] = 1 := by
  ext words
  rw [mem_yield, Language.mem_one]
  constructor
  · intro said
    cases said
    rfl
  · rintro rfl
    exact .nil

theorem yield_append (left right : List String) :
    grammar.yield terminals reading (left ++ right) =
      grammar.yield terminals reading left * grammar.yield terminals reading right := by
  ext words
  rw [mem_yield, Language.mem_mul]
  constructor
  · intro said
    obtain ⟨first, last, before, after, rfl⟩ := said.split
    exact ⟨first, before, last, after, rfl⟩
  · rintro ⟨first, before, last, after, rfl⟩
    exact before.append after

theorem yield_cons (name : String) (rest : List String) :
    grammar.yield terminals reading (name :: rest) =
      grammar.yield terminals reading [name] * grammar.yield terminals reading rest :=
  yield_append [name] rest

/-- The yield of a list of names is the product of theirs. -/
theorem yield_eq_prod (symbols : List String) :
    grammar.yield terminals reading symbols =
      (symbols.map fun name => grammar.yield terminals reading [name]).prod := by
  induction symbols with
  | nil => simp
  | cons name rest ih => rw [yield_cons, ih, List.map_cons, List.prod_cons]

theorem yield_terminal {name : String} (known : name ∈ terminals) :
    grammar.yield terminals reading [name] = {reading name} := by
  ext words
  rw [mem_yield]
  constructor
  · intro said
    cases said with
    | terminal _ tail =>
      cases tail
      exact List.append_nil _
    | expand _ unknown _ _ => exact absurd known unknown
  · rintro rfl
    simpa using Says.terminal known .nil

theorem mem_yield_name {name : String} (unknown : name ∉ terminals) {words : List α} :
    words ∈ grammar.yield terminals reading [name] ↔
      ∃ body, ⟨name, body⟩ ∈ grammar ∧ words ∈ grammar.yield terminals reading body := by
  constructor
  · intro said
    cases said with
    | terminal known _ => exact absurd known unknown
    | @expand production _ _ _ member _ body tail =>
      cases tail
      exact ⟨production.symbols, member, by simpa [mem_yield] using body⟩
  · rintro ⟨body, member, said⟩
    simpa [mem_yield] using Says.expand member unknown said .nil

theorem yield_le_of_mem {name : String} {body : List String} (member : ⟨name, body⟩ ∈ grammar)
    (unknown : name ∉ terminals) :
    grammar.yield terminals reading body ≤ grammar.yield terminals reading [name] :=
  fun _ said => (mem_yield_name unknown).2 ⟨body, member, said⟩

/-- Languages for all names bound the yields, if they do so for the terminals and along every production. -/
theorem yield_le {bound : String → Language α} (ends : ∀ name ∈ terminals, reading name ∈ bound name)
    (steps : ∀ production ∈ grammar, production.name ∉ terminals →
      (production.symbols.map bound).prod ≤ bound production.name)
    (symbols : List String) : grammar.yield terminals reading symbols ≤ (symbols.map bound).prod := by
  intro words said
  replace said : Says grammar terminals reading symbols words := said
  induction said with
  | nil => exact Language.nil_mem_one
  | terminal known _ ih =>
    rw [List.map_cons, List.prod_cons]
    exact Language.append_mem_mul (ends _ known) ih
  | expand member unknown _ _ ihBody ihTail =>
    rw [List.map_cons, List.prod_cons]
    exact Language.append_mem_mul (steps _ member unknown ihBody) ihTail

/-- The sentences of the grammar are what the start yields. -/
theorem contextFree_language (unknown : Name.start ∉ terminals) :
    (grammar.contextFree terminals).language = grammar.yield terminals (fun name => [name]) [Name.start] := by
  ext names
  exact mem_contextFree_language unknown

/-- Terminals yield their readings. -/
theorem yield_terminals {symbols : List String} (known : symbols ⊆ terminals) :
    grammar.yield terminals reading symbols = {symbols.flatMap reading} := by
  induction symbols with
  | nil =>
    rw [yield_nil]
    rfl
  | cons name rest ih =>
    obtain ⟨first, others⟩ := List.cons_subset.1 known
    rw [yield_cons, yield_terminal first, ih others, List.flatMap_cons]
    exact Set.image2_singleton

theorem mem_sum {languages : List (Language α)} {words : List α} :
    words ∈ languages.sum ↔ ∃ language ∈ languages, words ∈ language := by
  induction languages with
  | nil => simp
  | cons language rest ih => rw [List.sum_cons, Language.mem_add, ih]; simp

/-- A grammar of parts, each of which settles all that stands in it, yields what the parts yield. -/
theorem yield_flatten {parts : List Grammar} {name : String} (unknown : name ∉ terminals)
    (closed : ∀ part ∈ parts, ∀ production ∈ part, part.Settles parts.flatten terminals production.symbols) :
    Grammar.yield parts.flatten terminals reading [name] =
      (parts.map fun part => part.yield terminals reading [name]).sum := by
  ext words
  simp only [mem_sum, List.mem_map, mem_yield_name unknown]
  constructor
  · rintro ⟨body, member, said⟩
    obtain ⟨part, listed, inside⟩ := List.mem_flatten.1 member
    refine ⟨_, ⟨part, listed, rfl⟩, (mem_yield_name unknown).2 ⟨body, inside, ?_⟩⟩
    exact Says.of_settles (closed part listed) (closed part listed _ inside) said
  · rintro ⟨_, ⟨part, listed, rfl⟩, said⟩
    obtain ⟨body, inside, said⟩ := (mem_yield_name unknown).1 said
    have subset : part ⊆ parts.flatten := fun production member => List.mem_flatten_of_mem listed member
    exact ⟨body, subset inside, Says.mono subset said⟩

/-- A name yields what the bodies of its productions yield. -/
theorem yield_name {name : String} {bodies : List (List String)} (unknown : name ∉ terminals)
    (only : ∀ body, ⟨name, body⟩ ∈ grammar ↔ body ∈ bodies) :
    grammar.yield terminals reading [name] = (bodies.map (grammar.yield terminals reading)).sum := by
  ext words
  rw [mem_yield_name unknown, mem_sum]
  constructor
  · rintro ⟨body, member, said⟩
    exact ⟨_, List.mem_map_of_mem ((only body).1 member), said⟩
  · rintro ⟨_, listed, said⟩
    obtain ⟨body, member, rfl⟩ := List.mem_map.1 listed
    exact ⟨body, (only body).2 member, said⟩

/-- A left-recursive name yields its other bodies, and after them what is recursed over any number of times. -/
theorem yield_left_recursive {name : String} {bodies : List (List String)} {more : List String}
    (unknown : name ∉ terminals) (only : ∀ body, ⟨name, body⟩ ∈ grammar ↔ body ∈ bodies ∨ body = name :: more) :
    grammar.yield terminals reading [name] =
      (bodies.map (grammar.yield terminals reading)).sum * (grammar.yield terminals reading more)∗ := by
  set starts := (bodies.map (grammar.yield terminals reading)).sum
  set loop := grammar.yield terminals reading more
  have lower : starts * loop∗ ≤ grammar.yield terminals reading [name] := by
    apply mul_kstar_le
    · intro words said
      obtain ⟨_, listed, said⟩ := mem_sum.1 said
      obtain ⟨body, member, rfl⟩ := List.mem_map.1 listed
      exact (mem_yield_name unknown).2 ⟨body, (only body).2 (.inl member), said⟩
    · rw [← yield_cons]
      exact yield_le_of_mem ((only _).2 (.inr rfl)) unknown
  refine le_antisymm ?_ lower
  -- every other name keeps its own yield as the bound
  let bound : String → Language α := fun other =>
    if other = name then starts * loop∗ else grammar.yield terminals reading [other]
  have tight : ∀ other, bound other ≤ grammar.yield terminals reading [other] := by
    intro other
    by_cases same : other = name
    · simpa [bound, same] using lower
    · simp [bound, same]
  have within : ∀ symbols : List String, (symbols.map bound).prod ≤ grammar.yield terminals reading symbols := by
    intro symbols
    induction symbols with
    | nil => simp
    | cons other rest ih =>
      rw [List.map_cons, List.prod_cons, yield_cons]
      exact mul_le_mul' (tight other) ih
  have bounded : grammar.yield terminals reading [name] ≤ ([name].map bound).prod := by
    apply yield_le
    · intro other known
      have different : other ≠ name := fun same => unknown (same ▸ known)
      simp only [bound, if_neg different, yield_terminal known]
      exact Set.mem_singleton _
    · rintro ⟨other, body⟩ member unlisted
      by_cases same : other = name
      · subst same
        simp only [bound, if_pos]
        obtain start | rfl := (only body).1 member
        · have first : grammar.yield terminals reading body ≤ starts :=
            fun words said => mem_sum.2 ⟨_, List.mem_map_of_mem start, said⟩
          calc (body.map bound).prod ≤ starts := (within body).trans first
            _ = starts * 1 := (mul_one _).symm
            _ ≤ starts * loop∗ := mul_le_mul' le_rfl one_le_kstar
        · calc ((other :: more).map bound).prod = starts * loop∗ * (more.map bound).prod := by simp [bound]
            _ ≤ starts * loop∗ * loop := mul_le_mul' le_rfl (within more)
            _ = starts * (loop∗ * loop) := mul_assoc ..
            _ ≤ starts * loop∗ := mul_le_mul' le_rfl kstar_mul_le_kstar
      · exact (within body).trans (by simpa [bound, same] using yield_le_of_mem member unlisted)
  simpa [bound] using bounded

end Yield

end Grammar

end Utterance
