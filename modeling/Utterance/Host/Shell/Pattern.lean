import Utterance.Host.Octets

/-!
# Patterns

In a pattern a star stands for any text, a question mark for any character, and brackets for one of several characters.
Quoted characters stand for themselves.
-/

namespace Utterance.Host.Shell
set_option autoImplicit false

/-- A text in which every character is quoted or not. -/
abbrev Marked := List (Char × Bool)

/-- A part of a pattern. -/
inductive Glob where
  | run
  | one
  | member (negated : Bool) (ranges : List (Char × Char))
  | exact (c : Char)
  deriving DecidableEq, Repr, Inhabited

/-- The ranges of a class of characters. -/
def classRanges : String → List (Char × Char)
  | "alpha" => [('a', 'z'), ('A', 'Z')]
  | "digit" => [('0', '9')]
  | "alnum" => [('a', 'z'), ('A', 'Z'), ('0', '9')]
  | "upper" => [('A', 'Z')]
  | "lower" => [('a', 'z')]
  | "space" => [(' ', ' '), ('\t', '\r')]
  | "blank" => [(' ', ' '), ('\t', '\t')]
  | "punct" => [('!', '/'), (':', '@'), ('[', '\x60'), ('\x7b', '~')]
  | "print" => [(' ', '~')]
  | "graph" => [('!', '~')]
  | "cntrl" => [('\x00', '\x1f'), ('\x7f', '\x7f')]
  | "xdigit" => [('0', '9'), ('a', 'f'), ('A', 'F')]
  | _ => []

/-- The class that a text starts with, after its opening bracket and colon, and what follows. -/
def classFrom : (name : Octets) → Marked → Option (List (Char × Char) × Marked)
  | name, (':', _) :: (']', _) :: rest => some (classRanges (String.ofList name.reverse), rest)
  | name, (c, _) :: rest => if c.isLower then classFrom (c :: name) rest else none
  | _, [] => none

/-- The members between brackets up to the closing one, at most `fuel` of them. A bracket that comes first is a
member. -/
def membersFrom : (fuel : Nat) → (first : Bool) → (ranges : List (Char × Char)) → Marked →
    Option (List (Char × Char) × Marked)
  | 0, _, _, _ => none
  | _, _, _, [] => none
  | fuel + 1, first, ranges, (c, quoted) :: rest =>
    if c = ']' && !quoted && !first then some (ranges, rest)
    else
      match if c = '[' && !quoted && rest.head?.map Prod.fst = some ':' then classFrom [] rest.tail else none with
      | some (more, rest) => membersFrom fuel false (ranges ++ more) rest
      | none =>
        match rest with
        | ('-', false) :: (last, lastQuoted) :: after =>
          if last = ']' && !lastQuoted then membersFrom fuel false (ranges ++ [(c, c)]) rest
          else membersFrom fuel false (ranges ++ [(c, last)]) after
        | _ => membersFrom fuel false (ranges ++ [(c, c)]) rest

/-- The parts of a pattern, at most `fuel` of them. A bracket that is not closed stands for itself. -/
def globsFrom : (fuel : Nat) → Marked → List Glob
  | 0, _ => []
  | _, [] => []
  | fuel + 1, ('*', false) :: rest => .run :: globsFrom fuel rest
  | fuel + 1, ('?', false) :: rest => .one :: globsFrom fuel rest
  | fuel + 1, ('[', false) :: rest =>
    let (negated, inner) := match rest with
      | ('!', false) :: inner => (true, inner)
      | inner => (false, inner)
    match membersFrom (inner.length + 1) true [] inner with
    | some (ranges, rest) => .member negated ranges :: globsFrom fuel rest
    | none => .exact '[' :: globsFrom fuel rest
  | fuel + 1, (c, _) :: rest => .exact c :: globsFrom fuel rest

/-- The parts of a pattern. -/
def globs (pattern : Marked) : List Glob :=
  globsFrom pattern.length pattern

/-- Whether a character is what a part stands for. -/
def Glob.accepts : Glob → Char → Bool
  | .run, _ => true
  | .one, _ => true
  | .member negated ranges, c => (ranges.any fun (first, last) => first ≤ c && c ≤ last) != negated
  | .exact d, c => c = d

/-- Whether some rest of a text satisfies a test. -/
def someRest (test : Octets → Bool) : Octets → Bool
  | [] => test []
  | c :: rest => test (c :: rest) || someRest test rest

/-- Whether a text is what a pattern stands for. -/
def accepts : List Glob → Octets → Bool
  | [], text => text.isEmpty
  | .run :: globs, text => someRest (accepts globs) text
  | glob :: globs, text =>
    match text with
    | [] => false
    | c :: rest => glob.accepts c && accepts globs rest

/-- Whether a text is what a pattern stands for. -/
def Marked.accepts (pattern : Marked) (text : Octets) : Bool :=
  Shell.accepts (globs pattern) text

/-- A text without the start or the end that a pattern stands for, the shortest or the longest one. -/
def trimmed (fromEnd longest : Bool) (pattern : Marked) (text : Octets) : Octets :=
  let parts := globs pattern
  let lengths := List.range (text.length + 1)
  let sizes := if longest then lengths.reverse else lengths
  if fromEnd then
    match sizes.find? fun n => accepts parts (text.drop (text.length - n)) with
    | some n => text.take (text.length - n)
    | none => text
  else
    match sizes.find? fun n => accepts parts (text.take n) with
    | some n => text.drop n
    | none => text

/-- Whether a text has a part that stands for more than itself. -/
def isPattern (text : Marked) : Bool :=
  (globs text).any fun
    | .exact _ => false
    | _ => true

end Utterance.Host.Shell
