import Utterance.Host.Octets

/-!
# Shell scripts

A script is a list of commands. The words of a command are kept in pieces, since what a piece stands for is known only
when the command runs, and quoted pieces are treated differently from others.
-/

namespace Utterance.Host.Shell
set_option autoImplicit false

/-- What is done about a parameter that is not set. -/
inductive Absence where
  /-- a word is used instead -/
  | substitute
  /-- the parameter is set to a word -/
  | assign
  /-- it is a fault -/
  | refuse
  /-- a word is used if it is set after all -/
  | alternate
  deriving DecidableEq, Repr, Inhabited

/-- How a file is opened. -/
inductive OpenMode where
  | read
  | write
  | clobber
  | append
  | readWrite
  deriving DecidableEq, Repr, Inhabited

mutual

/-- A piece of a word. -/
inductive Piece where
  | letter (c : Char) (quoted : Bool)
  /-- quotes with nothing between them -/
  | quotes
  | parameter (name : Octets) (use : Use) (quoted : Bool)
  /-- the value of a parameter, used in a way that has no meaning -/
  | meaningless
  | substitution (script : List Command) (quoted : Bool)
  | arithmetic (expression : List Piece) (quoted : Bool)

/-- How the value of a parameter is used. -/
inductive Use where
  | value
  | length
  /-- with `orEmpty` an empty value counts as not set -/
  | absent (absence : Absence) (orEmpty : Bool) (word : List Piece)
  | trimmed (fromEnd longest : Bool) (pattern : List Piece)

/-- Where a descriptor leads. -/
inductive Redirection where
  | file (descriptor : Nat) (mode : OpenMode) (target : List Piece)
  | duplicate (descriptor : Nat) (target : List Piece)
  | here (descriptor : Nat) (body : List Piece)

/-- A command. -/
inductive Command where
  | simple (line : Nat) (assignments : List (Octets × List Piece)) (words : List (List Piece))
      (redirections : List Redirection)
  | pipeline (negated : Bool) (stages : List Command)
  /-- commands of which each runs depending on the status before; `true` if that has to be success -/
  | chain (first : Command) (rest : List (Bool × Command))
  | background (command : Command)
  | subshell (body : List Command)
  | group (body : List Command)
  | choice (condition body otherwise : List Command)
  | loop (whileTrue : Bool) (condition body : List Command)
  /-- without words the parameters are used -/
  | each (line : Nat) (name : Octets) (words : Option (List (List Piece))) (body : List Command)
  | select (line : Nat) (word : List Piece) (branches : List (List (List Piece) × List Command))
  | define (name : Octets) (body : Command)
  | redirected (line : Nat) (command : Command) (redirections : List Redirection)

end

instance : Inhabited Piece := ⟨.quotes⟩

instance : Inhabited Use := ⟨.value⟩

instance : Inhabited Redirection := ⟨.here 0 []⟩

instance : Inhabited Command := ⟨.group []⟩

/-- A word. -/
abbrev Word := List Piece

/-- A script. -/
abbrev Script := List Command

/-- The text of a word in which nothing is quoted and nothing has to be looked up. -/
def plainText? : Word → Option Octets
  | [] => some []
  | .letter c false :: rest => (plainText? rest).map (c :: ·)
  | _ => none

/-- Letters as pieces of a word. -/
def lettersOf (quoted : Bool) (text : Octets) : Word :=
  text.map fun c => .letter c quoted

/-- Whether a character may start a name. -/
def isNameStart (c : Char) : Bool :=
  c.isAlpha || c = '_'

/-- Whether a character may be in a name. -/
def isNameLetter (c : Char) : Bool :=
  c.isAlphanum || c = '_'

/-- Whether a text is a name. -/
def isName : Octets → Bool
  | [] => false
  | c :: rest => isNameStart c && rest.all isNameLetter

/-- The parameters that are named by a sign. -/
def isSpecial (c : Char) : Bool :=
  "@*#?-$!0123456789".toList.contains c

end Utterance.Host.Shell
