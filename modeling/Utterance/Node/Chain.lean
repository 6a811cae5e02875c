import Utterance.Node.Basic

/-!
# Chains

What a table denotes from a node on: the items in order, each with its repetition and whether it ends its
alternative, and for a group the chain inside. Placeholders are left out. A link out of the table is kept, with its
index, as the place where the chain is broken, since what is read before it is still read.
-/

namespace Utterance
set_option autoImplicit false

/-- The content of an item without children. -/
inductive Leaf where
  | literal (text : String)
  | symbol (name : String)
  | other (kind : String)
  deriving DecidableEq, Repr, Inhabited

/-- Items one after the other. -/
inductive Chain where
  | nil
  | broken (index : Nat)
  | leaf (content : Leaf) (repetition : Repetition) (closes : Bool) (next : Chain)
  | group (inner : Chain) (repetition : Repetition) (closes : Bool) (next : Chain)
  deriving DecidableEq, Repr, Inhabited

/-- The content of a node without children. -/
def Node.leaf (node : Node) : Leaf :=
  match node.kind with
  | .literal => .literal node.content
  | .symbol => .symbol node.content
  | .other name => .other name

namespace NodeTable

/-- The chain that a link leads to, following at most `fuel` links. -/
def unfold (table : NodeTable) : (fuel : Nat) → Option Nat → Chain
  | _, none => .nil
  | 0, some index => .broken index
  | fuel + 1, some index =>
    match table.nodes[index]? with
    | none => .broken index
    | some node =>
      if node.isPlaceholder then table.unfold fuel node.next
      else if node.isGroup then
        .group (table.unfold fuel node.child) node.repetition node.closesAlternative (table.unfold fuel node.next)
      else .leaf node.leaf node.repetition node.closesAlternative (table.unfold fuel node.next)

/-- The top-level chain. A path without circles is never longer than the table. -/
def chain (table : NodeTable) : Chain :=
  table.unfold table.nodes.size table.first

end NodeTable

/-- Cuts a list after every flagged member; no piece is empty. -/
def splitAfter {α : Type} : List (α × Bool) → List (List α)
  | [] => []
  | (a, true) :: rest => [a] :: splitAfter rest
  | (a, false) :: rest =>
    match splitAfter rest with
    | [] => [[a]]
    | piece :: pieces => (a :: piece) :: pieces

end Utterance
