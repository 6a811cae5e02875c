import Utterance.Capacity
import Utterance.Grammar.Production
import Utterance.Grammar.Vocabulary
import Utterance.Node.Chain
import Utterance.Phonetic.Transliterator

/-!
# Lowering a node table to a grammar

What the items of a table become (`JuliusCodeGenerator`). Every item gets a name: the name of its scope and its number
in it. A repeated item keeps that name for the productions of its repetition and goes on under its loop name. A literal
becomes a section of the vocabulary, a symbol a production with that symbol, and a group one production for each
alternative, its children being lowered in the scope of its name. The top-level items are the words of a sentence, and
each has a root of its own. The links of the table are followed three times over, for the roots, for the alternatives of
a group and for the items themselves; each time placeholders are skipped and the items are counted anew.
-/

namespace Utterance
set_option autoImplicit false

namespace Name

/-- The symbol of whole sentences. -/
def start : String := "S"

/-- The silence before a sentence. -/
def silenceBegin : String := "NS_B"

/-- The silence after a sentence. -/
def silenceEnd : String := "NS_E"

/-- What is said where an item is left out. -/
def noise : String := "NOISE"

/-- The scope of the top-level roots. -/
def rootScope : String := "ROOT"

/-- The scope of the top-level items. -/
def wordScope : String := "WORD"

/-- The name of item `number` in a scope. -/
def child (scope : String) (number : Int) : String :=
  scope ++ "_" ++ toString number

/-- The name under which a repeated item goes on. -/
def loop (name : String) : String := name ++ "_LOOP"

end Name

/-- Why a chain has no grammar. -/
inductive LoweringFault where
  /-- a link leads to an index out of the table -/
  | outOfTable (index : Nat)
  /-- the item of that name has content of a kind without meaning -/
  | unknownKind (kind name : String)
  /-- the item of that name has a repetition without meaning -/
  | unknownRepetition (kind name : String)
  /-- a literal has no phones -/
  | transliteration (fault : TransliterationFault)
  /-- an item cannot be repeated that often -/
  | capacity (fault : CapacityFault)
  /-- an item has a number that cannot be written -/
  | oversizedNumber
  deriving DecidableEq, Repr, Inhabited

/-- The name of item `number` in a scope, if the number can be written. -/
def itemName (scope : String) (number : Int) : Except LoweringFault String :=
  if isWritable number then .ok (Name.child scope number) else .error .oversizedNumber

/-- The symbols for saying `loop` a number of times, after those from `least` times on. -/
def repeatedSymbols [Limits] (loop : String) (least count : Int) : Except CapacityFault (List String) :=
  if count = 0 then .ok [Name.noise]
  else
    match repetitionFault? least count with
    | some fault => .error fault
    | none => .ok (List.replicate count.toNat loop)

/-- The productions of `name` for `left` numbers of times, from `count` on, after those from `least` times on. -/
def countedProductions [Limits] (name : String) (least : Int) : (left : Nat) → (count : Int) →
    Except LoweringFault (List Production)
  | 0, _ => .ok []
  | left + 1, count => do
    let symbols ← (repeatedSymbols (Name.loop name) least count).mapError LoweringFault.capacity
    let rest ← countedProductions name least left (count + 1)
    return ⟨name, symbols⟩ :: rest

namespace Repetition

/-- The productions by which an item of a given name is repeated (`_lower_repeat`). -/
def productions [Limits] (name : String) : Repetition → Except LoweringFault (List Production)
  | .once => .ok []
  | .range least most => countedProductions name least (most + 1 - least).toNat least
  | .zeroOrMore =>
    .ok [⟨name, [Name.noise]⟩, ⟨name, [Name.loop name]⟩, ⟨name, [name, Name.loop name]⟩]
  | .oneOrMore => .ok [⟨name, [Name.loop name]⟩, ⟨name, [name, Name.loop name]⟩]
  | .other kind _ _ => .error (.unknownRepetition kind name)

/-- The name under which an item goes on. -/
def bodyName (name : String) : Repetition → String
  | .once => name
  | _ => Name.loop name

end Repetition

/-- What items are lowered to, and the number after the last of them. -/
structure Lowered where
  grammar : Grammar
  vocabulary : Vocabulary
  nextNumber : Int
  deriving DecidableEq, Repr, Inhabited

/-- A leaf under its name. -/
def Leaf.lower (transliterate : Transliterator) (name : String) : Leaf → Except LoweringFault (Grammar × Vocabulary)
  | .literal text =>
    match transliterate text with
    | .ok phones => .ok ([], [⟨name, [⟨text, phones⟩]⟩])
    | .error fault => .error (.transliteration fault)
  | .symbol reference => .ok ([⟨name, [reference]⟩], [])
  | .other kind => .error (.unknownKind kind name)

/-- The sentence of the roots with the given numbers, and the production of each root. -/
def rootProductions (numbers : List Int) : Grammar :=
  let roots := numbers.map (Name.child Name.rootScope)
  ⟨Name.start, Name.silenceBegin :: roots ++ [Name.silenceEnd]⟩ ::
    numbers.map fun number => ⟨Name.child Name.rootScope number, [Name.child Name.wordScope number]⟩

namespace NodeTable

variable (table : NodeTable)

/-- The numbers of the items that a link leads to, counted from `number`, after those that were met already. At most
`fuel` links are followed. -/
def rootsFrom : (fuel : Nat) → (roots : List Int) → (number : Int) → Option Nat → Except LoweringFault (List Int)
  | _, roots, _, none => .ok roots
  | 0, _, _, some index => .error (.outOfTable index)
  | fuel + 1, roots, number, some index =>
    match table.nodes[index]? with
    | none => .error (.outOfTable index)
    | some node =>
      if node.isPlaceholder then rootsFrom fuel roots number node.next
      else rootsFrom fuel (roots ++ [number]) (number + 1) node.next

/-- The productions of the roots (`_root_rules`). -/
def rootRules (number : Int) : Except LoweringFault Grammar := do
  let roots ← table.rootsFrom table.nodes.size [] number table.first
  if roots.all isWritable then return rootProductions roots else throw .oversizedNumber

/-- The names of the items that a link leads to, counted from `number` and collected after those that were met already.
At most `fuel` links are followed. -/
def namesFrom (name : String) : (fuel : Nat) → (number : Int) → Collected String → Option Nat →
    Except LoweringFault (Collected String)
  | _, _, collected, none => .ok collected
  | 0, _, _, some index => .error (.outOfTable index)
  | fuel + 1, number, collected, some index =>
    match table.nodes[index]? with
    | none => .error (.outOfTable index)
    | some node =>
      if node.isPlaceholder then namesFrom name fuel number collected node.next
      else namesFrom name fuel (number + 1) (collected.add (Name.child name number) node.closesAlternative) node.next

/-- The productions of a group, one for each of its alternatives that is not empty (`_alternatives`). -/
def alternatives (fuel : Nat) (name : String) (first : Option Nat) : Except LoweringFault Grammar :=
  (table.namesFrom name fuel 0 {} first).map fun collected =>
    collected.alternatives.map fun alternative => ⟨name, alternative⟩

/-- The items that a link leads to, in a scope, after what was lowered already. At most `fuel` links are followed. -/
def lowerFrom [Limits] (transliterate : Transliterator) : (fuel : Nat) → (scope : String) → (before : Lowered) →
    Option Nat → Except LoweringFault Lowered
  | _, _, before, none => .ok before
  | 0, _, _, some index => .error (.outOfTable index)
  | fuel + 1, scope, before, some index =>
    match table.nodes[index]? with
    | none => .error (.outOfTable index)
    | some node =>
      if node.isPlaceholder then lowerFrom transliterate fuel scope before node.next
      else do
        let name ← itemName scope before.nextNumber
        let repeats ← node.repetition.productions name
        let body := node.repetition.bodyName name
        let (grammar, vocabulary) ← (
          if node.isGroup then do
            let alternatives ← table.alternatives fuel body node.child
            let nested ← lowerFrom transliterate fuel body ⟨[], [], 0⟩ node.child
            return (alternatives ++ nested.grammar, nested.vocabulary)
          else node.leaf.lower transliterate body)
        lowerFrom transliterate fuel scope
          ⟨before.grammar ++ (repeats ++ grammar), before.vocabulary ++ vocabulary, before.nextNumber + 1⟩ node.next

/-- A table lowered as a sentence, or in the scope of a given name (`JuliusCodeGenerator.generate`). A path without
circles is never longer than the table. -/
def lower [Limits] (transliterate : Transliterator) (number : Int) (scope : Option String := none) :
    Except LoweringFault Lowered :=
  match scope with
  | none => do
    let roots ← table.rootRules number
    table.lowerFrom transliterate table.nodes.size Name.wordScope ⟨roots, [], number⟩ table.first
  | some scope => table.lowerFrom transliterate table.nodes.size scope ⟨[], [], number⟩ table.first

end NodeTable

end Utterance
