import Utterance.Pattern.Token

/-!
# Marks of a pattern

What the lexemes of a pattern say, in the order they are written: a literal, a symbol, the start and the end of
a group, a bar between alternatives, and a repetition of the item just before. `marks` reads the lexemes with one
of nine expectations and the number of open groups, and refuses the first lexeme that fits none of them.
-/

namespace Utterance.Pattern
set_option autoImplicit false

/-- A run of digits and the column it starts in. -/
structure Numeral where
  digits : List Char
  column : Nat
  deriving DecidableEq, Repr, Inhabited

/-- One statement of a pattern. -/
inductive Mark where
  | literal (spelling : List Char) (column : Nat)
  | symbol (name : List Char) (column : Nat)
  | openGroup (column : Nat)
  | closeGroup
  | bar
  | zeroOrMore
  | oneOrMore
  | optional
  | exactly (count : Numeral)
  | range (least most : Numeral)
  deriving DecidableEq, Repr, Inhabited

/-- What may come next. -/
inductive Expecting where
  /-- an item, at the start of an alternative -/
  | item
  /-- a repetition of the item just read, or what may follow an item -/
  | repetition
  /-- what may follow an item that has its repetition -/
  | more
  /-- the name after an opening angle -/
  | name
  /-- the closing angle -/
  | nameEnd (name : List Char) (column : Nat)
  /-- the numeral after an opening brace -/
  | least
  /-- a comma or the closing brace -/
  | leastEnd (least : Numeral)
  /-- the numeral after the comma -/
  | most (least : Numeral)
  /-- the closing brace after two numerals -/
  | mostEnd (least most : Numeral)
  deriving DecidableEq, Repr, Inhabited

/-- What may come next, and how many groups are open. -/
structure Reading where
  expecting : Expecting
  depth : Nat
  deriving DecidableEq, Repr, Inhabited

/-- Why lexemes are no pattern: the first that does not fit, or their end. -/
inductive Refusal where
  | lexeme (lexeme : Lexeme)
  | tooShort
  deriving DecidableEq, Repr, Inhabited

namespace Reading

/-- Before the first lexeme. -/
def start : Reading := ⟨.item, 0⟩

/-- A lexeme that starts an item. -/
def startItem (depth : Nat) (lexeme : Lexeme) : Option (Reading × List Mark) :=
  match lexeme.token with
  | .openGroup => some (⟨.item, depth + 1⟩, [.openGroup lexeme.column])
  | .literal spelling => some (⟨.repetition, depth⟩, [.literal spelling lexeme.column])
  | .openName => some (⟨.name, depth⟩, [])
  | _ => none

/-- A lexeme that follows an item: the next item, a bar or the end of the group. -/
def followItem (depth : Nat) (lexeme : Lexeme) : Option (Reading × List Mark) :=
  match lexeme.token, depth with
  | .bar, depth + 1 => some (⟨.item, depth + 1⟩, [.bar])
  | .closeGroup, depth + 1 => some (⟨.repetition, depth⟩, [.closeGroup])
  | _, depth => startItem depth lexeme

/-- A lexeme right after an item, which may be a repetition of it. -/
def repeatItem (depth : Nat) (lexeme : Lexeme) : Option (Reading × List Mark) :=
  match lexeme.token with
  | .plus => some (⟨.more, depth⟩, [.oneOrMore])
  | .star => some (⟨.more, depth⟩, [.zeroOrMore])
  | .question => some (⟨.more, depth⟩, [.optional])
  | .openCount => some (⟨.least, depth⟩, [])
  | _ => followItem depth lexeme

/-- The reading after one more lexeme and the marks it completes, if the lexeme fits. -/
def step (reading : Reading) (lexeme : Lexeme) : Option (Reading × List Mark) :=
  match reading.expecting, lexeme.token with
  | .item, _ => startItem reading.depth lexeme
  | .repetition, _ => repeatItem reading.depth lexeme
  | .more, _ => followItem reading.depth lexeme
  | .name, .name text => some (⟨.nameEnd text lexeme.column, reading.depth⟩, [])
  | .nameEnd name column, .closeName => some (⟨.repetition, reading.depth⟩, [.symbol name column])
  | .least, .numeral digits => some (⟨.leastEnd ⟨digits, lexeme.column⟩, reading.depth⟩, [])
  | .leastEnd least, .comma => some (⟨.most least, reading.depth⟩, [])
  | .leastEnd least, .closeCount => some (⟨.more, reading.depth⟩, [.exactly least])
  | .most least, .numeral digits => some (⟨.mostEnd least ⟨digits, lexeme.column⟩, reading.depth⟩, [])
  | .mostEnd least most, .closeCount => some (⟨.more, reading.depth⟩, [.range least most])
  | _, _ => none

/-- Whether the lexemes may end here. -/
def isComplete (reading : Reading) : Bool :=
  reading.depth == 0 && (reading.expecting == .repetition || reading.expecting == .more)

/-- The marks of the lexemes that are still to come. -/
def marks : Reading → List Lexeme → Except Refusal (List Mark)
  | reading, [] => if reading.isComplete then .ok [] else .error .tooShort
  | reading, lexeme :: rest =>
    match reading.step lexeme with
    | none => .error (.lexeme lexeme)
    | some (next, here) => (marks next rest).map (here ++ ·)

end Reading

/-- The marks of a text, or the first place where it stops being a pattern: the grammar with the rules `start`, `expr`,
`item`, `group` and `repeat`. -/
def marks (text : List Char) : Except Refusal (List Mark) :=
  Reading.start.marks (scan text)

end Utterance.Pattern
