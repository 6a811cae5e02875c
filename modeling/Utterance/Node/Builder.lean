import Utterance.Node.Basic

/-!
# Building a node table

A builder (`PatternBuilder`) fills a table in the order in which a pattern is written. It keeps a cursor on the current
node and the groups that are open, innermost first. A leaf or group goes into the cursor's node while that is a
placeholder and into a new sibling otherwise; entering a group moves the cursor to a fresh child, leaving it moves the
cursor back.
-/

namespace Utterance
set_option autoImplicit false

/-- One step of building. -/
inductive BuildStep where
  | literal (text : String) (location : Option Location)
  | symbol (name : String) (location : Option Location)
  | enterGroup (location : Option Location)
  | exitGroup
  | alternative
  | repeated (repetition : Repetition)
  deriving DecidableEq, Repr, Inhabited

/-- Why a step cannot be done. -/
inductive BuildFault where
  /-- no group is open -/
  | noOpenGroup
  /-- that many groups are still open -/
  | openGroups (count : Nat)
  deriving DecidableEq, Repr, Inhabited

/-- The wording of a building fault. -/
def BuildFault.message : BuildFault → String
  | .noOpenGroup => "pop from empty list"
  | .openGroups count => "Builder bug: " ++ toString count ++ " group(s) left open"

/-- A table under construction; its first node is node 0. -/
structure Builder where
  nodes : Array Node
  cursor : Nat
  openGroups : List Nat
  deriving DecidableEq, Repr, Inhabited

namespace Builder

/-- One placeholder, with the cursor on it. -/
def empty : Builder := ⟨#[{}], 0, []⟩

/-- Changes the cursor's node. -/
def modifyCursor (builder : Builder) (change : Node → Node) : Builder :=
  { builder with nodes := builder.nodes.modify builder.cursor change }

/-- Puts the cursor on a node to write into: where it is, or a new sibling if that node is occupied (`_advance`). -/
def advance (builder : Builder) : Builder :=
  match builder.nodes[builder.cursor]? with
  | none => builder
  | some node =>
    if node.isOccupied then
      let sibling := builder.nodes.size
      let linked := builder.modifyCursor fun node => { node with next := some sibling }
      { linked with
        nodes := linked.nodes.push { parent := builder.openGroups.head? }
        cursor := sibling }
    else builder

/-- Writes a leaf (`literal`, `symbol`). -/
def putLeaf (builder : Builder) (kind : NodeKind) (content : String) (location : Option Location) : Builder :=
  builder.advance.modifyCursor fun node => { node with content, kind, location }

/-- Opens a group and moves to its first child (`enter_group`). -/
def enterGroup (builder : Builder) (location : Option Location) : Builder :=
  let target := builder.advance
  let child := target.nodes.size
  let group := target.modifyCursor fun node => { node with location, child := some child }
  { nodes := group.nodes.push { parent := some target.cursor }
    cursor := child
    openGroups := target.cursor :: target.openGroups }

/-- Closes the innermost group and moves back to it (`exit_group`). -/
def exitGroup (builder : Builder) : Except BuildFault Builder :=
  match builder.openGroups with
  | [] => .error .noOpenGroup
  | group :: outer => .ok { builder with cursor := group, openGroups := outer }

/-- One step. -/
def apply (builder : Builder) : BuildStep → Except BuildFault Builder
  | .literal text location => .ok (builder.putLeaf .literal text location)
  | .symbol name location => .ok (builder.putLeaf .symbol name location)
  | .enterGroup location => .ok (builder.enterGroup location)
  | .exitGroup => builder.exitGroup
  | .alternative => .ok (builder.modifyCursor fun node => { node with closesAlternative := true })
  | .repeated repetition => .ok (builder.modifyCursor fun node => { node with repetition })

/-- The steps in order, up to the first that fails. -/
def run (builder : Builder) : List BuildStep → Except BuildFault Builder
  | [] => .ok builder
  | step :: rest => (builder.apply step).bind fun next => next.run rest

/-- The table built so far. -/
def table (builder : Builder) : NodeTable :=
  { nodes := builder.nodes, first := some 0 }

/-- The finished table, once every group is closed (`PatternBuilder.finish`). -/
def finish (builder : Builder) : Except BuildFault NodeTable :=
  if builder.openGroups.isEmpty then .ok builder.table
  else .error (.openGroups builder.openGroups.length)

end Builder

end Utterance
