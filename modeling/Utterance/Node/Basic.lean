import Utterance.Location
import Utterance.Repetition

/-!
# Nodes and node tables

A pattern is kept as a table of nodes (`NodeArena`) that refer to each other by index: to the parent, to the first child
and to the next sibling. A node with a child is a group, whose children form one chain; a child with `closesAlternative`
is the last of its alternative. A node with neither child nor content is a placeholder that is still to be filled.
-/

namespace Utterance
set_option autoImplicit false

/-- What the content of a node without children means. -/
inductive NodeKind where
  | literal
  | symbol
  | other (name : String)
  deriving DecidableEq, Repr, Inhabited

/-- A node of a pattern and its links (`PatternNode`). -/
structure Node where
  content : String := ""
  kind : NodeKind := .literal
  repetition : Repetition := .once
  child : Option Nat := none
  next : Option Nat := none
  parent : Option Nat := none
  closesAlternative : Bool := false
  location : Option Location := none
  deriving DecidableEq, Repr, Inhabited

namespace Node

/-- The node has children. -/
def isGroup (node : Node) : Bool := node.child.isSome

/-- The node has content and no children. -/
def isLeaf (node : Node) : Bool := node.child.isNone && node.content != ""

/-- The node has neither children nor content. -/
def isPlaceholder (node : Node) : Bool := node.child.isNone && node.content == ""

/-- The node has children or content. -/
def isOccupied (node : Node) : Bool := !node.isPlaceholder

end Node

/-- Why a table of nodes cannot be read. -/
inductive TableFault where
  /-- a link leads to an index out of the table -/
  | outOfTable (index : Nat)
  /-- a leaf has content of a kind without meaning -/
  | unknownKind (kind : String)
  /-- a repetition has no meaning -/
  | unknownRepetition (kind : String)
  deriving DecidableEq, Repr, Inhabited

/-- Nodes and the first node of the top-level chain (`PatternTree`). -/
structure NodeTable where
  nodes : Array Node := #[]
  first : Option Nat := none
  deriving DecidableEq, Repr, Inhabited

namespace NodeTable

/-- The indices of a chain, at most `fuel` of them; a longer chain runs in a circle and has no end. -/
def chainFrom (table : NodeTable) : (fuel : Nat) → Option Nat → Except TableFault (List Nat)
  | _, none => .ok []
  | 0, some index => .error (.outOfTable index)
  | fuel + 1, some index =>
    match table.nodes[index]? with
    | none => .error (.outOfTable index)
    | some node => (chainFrom table fuel node.next).map (index :: ·)

/-- The indices of a node and of every sibling after it (`NodeArena.siblings`). -/
def siblings (table : NodeTable) (first : Option Nat) : Except TableFault (List Nat) :=
  table.chainFrom table.nodes.size first

/-- The indices of the top-level chain (`top_level`). -/
def topLevel (table : NodeTable) : Except TableFault (List Nat) :=
  table.siblings table.first

end NodeTable

/-- Items as they are collected into alternatives: the alternatives that are complete, and the one that is not. -/
structure Collected (α : Type) where
  complete : List (List α) := []
  current : List α := []

namespace Collected

variable {α : Type}

/-- One more item, which may complete its alternative. -/
def add (collected : Collected α) (item : α) (closes : Bool) : Collected α :=
  let current := collected.current ++ [item]
  if closes then ⟨collected.complete ++ [current], []⟩ else { collected with current }

/-- The alternatives that are not empty. -/
def alternatives (collected : Collected α) : List (List α) :=
  (collected.complete ++ [collected.current]).filter (!·.isEmpty)

end Collected

end Utterance
