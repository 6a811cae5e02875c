import Utterance.Node.Chain
import Utterance.Sexp

/-!
# Dumping a node table

A table as one S-expression (`serialize_pattern`). A group lists its alternatives, so that the bars are visible, and an
item that is repeated ends with its repetition. The links of the table are followed from item to item, placeholders
being skipped. Reading stops at the first thing without meaning, a leaf or group before its repetition.
-/

namespace Utterance
set_option autoImplicit false

/-- The expression of a repetition; `none` for an item said once (`_serialize_repeat`). -/
def Repetition.form : Repetition → Except TableFault (Option Sexp)
  | .once => .ok none
  | .range least most => .ok (some (.ofList [.symbol "range", .number least, .number most]))
  | .zeroOrMore => .ok (some (.ofList [.symbol "zero-or-more"]))
  | .oneOrMore => .ok (some (.ofList [.symbol "one-or-more"]))
  | .other kind _ _ => .error (.unknownRepetition kind)

/-- The expression of a leaf, as a list. -/
def Leaf.form : Leaf → Except TableFault (List Sexp)
  | .literal text => .ok [.symbol "literal", .text text]
  | .symbol name => .ok [.symbol "symbol", .text name]
  | .other kind => .error (.unknownKind kind)

/-- An item with its repetition at the end. -/
def Repetition.attach (repetition : Repetition) (core : List Sexp) : Except TableFault Sexp :=
  repetition.form.map fun form =>
    match form with
    | none => .ofList core
    | some form => .ofList (core ++ [.symbol ":repeat", form])

/-- The expression of a node, given those of the items of its alternatives (`serialize_node`). -/
def Node.form (node : Node) (alternatives : Except TableFault (List (List Sexp))) : Except TableFault Sexp := do
  let core ←
    if node.isGroup then
      alternatives.map fun alternatives =>
        .symbol "group" :: alternatives.map fun items => Sexp.cons (.symbol "alt") (.ofList items)
    else node.leaf.form
  node.repetition.attach core

namespace NodeTable

variable (table : NodeTable)

/-- The expressions of the items that a link leads to, collected into alternatives after those that were met already
(`_alternatives`). At most `fuel` links are followed. -/
def alternativeForms : (fuel : Nat) → Collected Sexp → Option Nat → Except TableFault (Collected Sexp)
  | _, collected, none => .ok collected
  | 0, _, some index => .error (.outOfTable index)
  | fuel + 1, collected, some index =>
    match table.nodes[index]? with
    | none => .error (.outOfTable index)
    | some node =>
      if node.isPlaceholder then alternativeForms fuel collected node.next
      else do
        let item ← node.form ((alternativeForms fuel {} node.child).map Collected.alternatives)
        alternativeForms fuel (collected.add item node.closesAlternative) node.next

/-- The expressions of the items that a link leads to, after those that were met already (`serialize_chain`). At most
`fuel` links are followed. -/
def chainForms : (fuel : Nat) → List Sexp → Option Nat → Except TableFault (List Sexp)
  | _, items, none => .ok items
  | 0, _, some index => .error (.outOfTable index)
  | fuel + 1, items, some index =>
    match table.nodes[index]? with
    | none => .error (.outOfTable index)
    | some node =>
      if node.isPlaceholder then chainForms fuel items node.next
      else do
        let item ← node.form ((table.alternativeForms fuel {} node.child).map Collected.alternatives)
        chainForms fuel (items ++ [item]) node.next

/-- The S-expression of a table. -/
def dump : Except TableFault String :=
  (table.chainForms table.nodes.size [] table.first).map fun items =>
    Sexp.render (.cons (.symbol "pattern") (.ofList items))

end NodeTable

end Utterance
