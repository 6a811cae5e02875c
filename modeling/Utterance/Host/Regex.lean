import Utterance.Host.Shell.Pattern

/-!
# Regular expressions

An expression is read in one of two dialects and looked for in a line of characters. Of all ways in which it fits at the
first place where it fits, the longest counts. Expressions can mark groups, whose texts are kept.
-/

namespace Utterance.Host
set_option autoImplicit false

/-- A regular expression. -/
inductive Regex where
  | empty
  | any
  | member (negated : Bool) (ranges : List (Char × Char))
  | start
  | stop
  /-- a place where a word may start, or end -/
  | wordEdge (starts ends : Bool)
  | noEdge
  /-- a place with no character of a word behind it, or ahead of it -/
  | outside (ahead : Bool)
  | group (index : Nat) (inner : Regex)
  | back (index : Nat)
  | both (first second : Regex)
  | either (first second : Regex)
  | repeated (least : Nat) (most : Option Nat) (inner : Regex)
  deriving DecidableEq, Repr, Inhabited

namespace Regex

/-! ## Matching -/

/-- A place in a line: the character before it, what is left, how far it is, and the groups so far. -/
structure Spot where
  before : Option Char := none
  rest : List Char
  position : Nat := 0
  groups : List (Nat × List Char) := []
  deriving Inhabited

/-- Whether a character belongs to words. -/
def isWord (c : Char) : Bool :=
  c.isAlphanum || c = '_' || 0xaa ≤ c.toNat

/-- Whether a character is in one of several ranges; without regard to case in any of its cases. -/
def isMember (anyCase : Bool) (ranges : List (Char × Char)) (c : Char) : Bool :=
  let holds (c : Char) : Bool := ranges.any fun (first, last) => first ≤ c && c ≤ last
  holds c || (anyCase && (holds c.toLower || holds c.toUpper))

/-- The spot after one character. -/
def Spot.next (spot : Spot) (c : Char) (rest : List Char) : Spot :=
  { spot with before := some c, rest, position := spot.position + 1 }

/-- The spot after a text, if it follows. -/
def Spot.after (anyCase : Bool) : (text : List Char) → Spot → Option Spot
  | [], spot => some spot
  | c :: text, spot =>
    match spot.rest with
    | d :: rest =>
      if c = d || (anyCase && c.toLower = d.toLower) then Spot.after anyCase text (spot.next d rest) else none
    | [] => none

/-- The farther of two spots. The second is looked for only if the first is not at the end. -/
def farther (first : Option Spot) (second : Unit → Option Spot) : Option Spot :=
  match first with
  | none => second ()
  | some a =>
    if a.rest.isEmpty then some a
    else
      match second () with
      | some b => if a.position < b.position then some b else some a
      | none => some a

/-- Repeats a step; how often it was done so far. A step that goes nowhere is not repeated. -/
def iterate (step : Spot → (Spot → Option Spot) → Option Spot) (least : Nat) (most : Option Nat)
    (goOn : Spot → Option Spot) : (fuel count : Nat) → Spot → Option Spot
  | 0, count, spot => if least ≤ count then goOn spot else none
  | fuel + 1, count, spot =>
    let ended (_ : Unit) : Option Spot := if least ≤ count then goOn spot else none
    if most.any (· ≤ count) then ended ()
    else
      farther
        (step spot fun after =>
          if after.position = spot.position && least ≤ count then none
          else iterate step least most goOn fuel (count + 1) after)
        ended

/-- Where an expression leads from a spot, if what follows it leads on from there. -/
def walk (anyCase : Bool) : Regex → Spot → (Spot → Option Spot) → Option Spot
  | .empty, spot, goOn => goOn spot
  | .any, spot, goOn =>
    match spot.rest with
    | c :: rest => goOn (spot.next c rest)
    | [] => none
  | .member negated ranges, spot, goOn =>
    match spot.rest with
    | c :: rest => if isMember anyCase ranges c != negated then goOn (spot.next c rest) else none
    | [] => none
  | .start, spot, goOn => if spot.before.isNone then goOn spot else none
  | .stop, spot, goOn => if spot.rest.isEmpty then goOn spot else none
  | .wordEdge starts ends, spot, goOn =>
    let behind := spot.before.any isWord
    let ahead := spot.rest.head?.any isWord
    if (starts && !behind && ahead) || (ends && behind && !ahead) then goOn spot else none
  | .noEdge, spot, goOn =>
    if spot.before.any isWord = spot.rest.head?.any isWord then goOn spot else none
  | .outside ahead, spot, goOn =>
    if (if ahead then spot.rest.head? else spot.before).any isWord then none else goOn spot
  | .group index inner, spot, goOn =>
    walk anyCase inner spot fun after =>
      goOn { after with groups := (index, spot.rest.take (after.position - spot.position)) ::
        after.groups.filter fun entry => entry.1 != index }
  | .back index, spot, goOn =>
    match spot.groups.lookup index with
    | some text => (spot.after anyCase text).bind goOn
    | none => none
  | .both first second, spot, goOn => walk anyCase first spot fun after => walk anyCase second after goOn
  | .either first second, spot, goOn =>
    farther (walk anyCase first spot goOn) fun _ => walk anyCase second spot goOn
  | .repeated least most inner, spot, goOn =>
    iterate (walk anyCase inner) least most goOn (spot.rest.length + least + 1) 0 spot

/-- A fit: what stands before it, its text, its groups and the spot after it. -/
structure Fit where
  before : List Char
  text : List Char
  groups : List (Nat × List Char)
  after : Spot
  deriving Inhabited

/-- The first fit from a spot on, after characters that were passed, last first. -/
def findFrom (anyCase : Bool) (regex : Regex) : (passed : List Char) → (before : Option Char) → (position : Nat) →
    List Char → Option Fit
  | passed, before, position, rest =>
    match walk anyCase regex { before, rest, position } some with
    | some after => some ⟨passed.reverse, rest.take (after.position - position), after.groups, after⟩
    | none =>
      match rest with
      | [] => none
      | c :: rest => findFrom anyCase regex (c :: passed) (some c) (position + 1) rest

/-- The first fit in a line. -/
def find? (anyCase : Bool) (regex : Regex) (line : List Char) : Option Fit :=
  findFrom anyCase regex [] none 0 line

/-- All fits in a line, from left to right, at most `fuel` of them; the text after the last. A fit of no characters
right after another fit does not count. -/
def findAll (anyCase : Bool) (regex : Regex) : (fuel : Nat) → (before : Option Char) → (position : Nat) →
    (afterFit : Bool) → List Char → List Fit × List Char
  | 0, _, _, _, rest => ([], rest)
  | fuel + 1, before, position, afterFit, rest =>
    match findFrom anyCase regex [] before position rest with
    | none => ([], rest)
    | some fit =>
      if fit.text.isEmpty then
        let empty := afterFit && fit.before.isEmpty
        match fit.after.rest with
        | [] => (if empty then [] else [fit], [])
        | c :: more =>
          let (fits, last) := findAll anyCase regex fuel (some c) (fit.after.position + 1) false more
          match fits with
          | next :: later =>
            let next := { next with before := c :: next.before }
            (if empty then { next with before := fit.before ++ next.before } :: later else fit :: next :: later, last)
          | [] => if empty then ([], fit.before ++ c :: last) else ([fit], c :: last)
      else
        let (fits, last) :=
          findAll anyCase regex fuel fit.text.getLast? fit.after.position true fit.after.rest
        (fit :: fits, last)

/-! ## Reading -/

/-- The two dialects: in the extended one signs are special that in the other need a backslash. -/
inductive Dialect where
  | plain
  | extended
  deriving DecidableEq, Repr, Inhabited

/-- An expression, the number of groups so far and what follows. -/
abbrev Parsed := Except String (Regex × Nat × List Char)

/-- One character. -/
def exactly (c : Char) : Regex :=
  .member false [(c, c)]

/-- The ranges of a class; letters beyond the first hundred and twenty-eight are letters. -/
def classOf (name : String) : List (Char × Char) :=
  let others : List (Char × Char) :=
    if name = "alpha" || name = "alnum" then [('À', '⿿'), ('ぁ', '﫿')]
    else if name = "print" || name = "graph" then [('¡', '￯')]
    else []
  Shell.classRanges name ++ others

/-- The members between brackets up to the closing one, at most `fuel`. -/
def membersFrom : (fuel : Nat) → (first : Bool) → (ranges : List (Char × Char)) → List Char →
    Option (List (Char × Char) × List Char)
  | 0, _, _, _ => none
  | _, _, _, [] => none
  | fuel + 1, first, ranges, c :: rest =>
    if c = ']' && !first then some (ranges, rest)
    else
      let named := if c = '[' && rest.head? = some ':' then
          let name := rest.tail.takeWhile Char.isLower
          if ":]".toList.isPrefixOf (rest.tail.drop name.length) then
            some (classOf (String.ofList name), rest.tail.drop (name.length + 2))
          else none
        else none
      match named with
      | some (more, rest) => membersFrom fuel false (ranges ++ more) rest
      | none =>
        match rest with
        | '-' :: last :: after =>
          if last = ']' then membersFrom fuel false (ranges ++ [(c, c)]) rest
          else membersFrom fuel false (ranges ++ [(c, last)]) after
        | _ => membersFrom fuel false (ranges ++ [(c, c)]) rest

/-- The bounds of a repetition up to the closing brace. -/
def boundsFrom (dialect : Dialect) (text : List Char) : Option (Nat × Option Nat × List Char) :=
  let digits (text : List Char) := (text.takeWhile Char.isDigit, text.dropWhile Char.isDigit)
  let close : List Char := match dialect with
    | .plain => ['\\', '\x7d']
    | .extended => ['\x7d']
  let (first, rest) := digits text
  let ended (least : Nat) (most : Option Nat) (rest : List Char) : Option (Nat × Option Nat × List Char) :=
    if close.isPrefixOf rest then some (least, most, rest.drop close.length) else none
  match rest with
  | ',' :: rest =>
    let (last, rest) := digits rest
    ended ((natural? first).getD 0) (natural? last) rest
  | rest => (natural? first).bind fun n => ended n (some n) rest

/-- The repetition that a text starts with: its bounds and what follows. -/
def repetition? (dialect : Dialect) (text : List Char) : Option (Except String (Nat × Option Nat × List Char)) :=
  let braces (rest : List Char) : Option (Except String (Nat × Option Nat × List Char)) :=
    match boundsFrom dialect rest with
    | some (least, most, rest) =>
      if most.any (· < least) then some (.error "Invalid content of \\\x7b\\\x7d") else some (.ok (least, most, rest))
    | none =>
      match dialect with
      | .plain => some (.error "Unmatched \\\x7b")
      | .extended => none
  match dialect, text with
  | _, '*' :: rest => some (.ok (0, none, rest))
  | .plain, '\\' :: '+' :: rest => some (.ok (1, none, rest))
  | .plain, '\\' :: '?' :: rest => some (.ok (0, some 1, rest))
  | .plain, '\\' :: '\x7b' :: rest => braces rest
  | .extended, '+' :: rest => some (.ok (1, none, rest))
  | .extended, '?' :: rest => some (.ok (0, some 1, rest))
  | .extended, '\x7b' :: rest => braces rest
  | _, _ => none

/-- Repetitions of an expression, at most `fuel`. -/
def repeatedBy (dialect : Dialect) : (fuel : Nat) → Regex → List Char → Except String (Regex × List Char)
  | 0, regex, rest => .ok (regex, rest)
  | fuel + 1, regex, rest =>
    match repetition? dialect rest with
    | none => .ok (regex, rest)
    | some (.error text) => .error text
    | some (.ok (least, most, rest)) => repeatedBy dialect fuel (.repeated least most regex) rest

/-- What a backslash and a letter stand for. -/
def escaped? (c : Char) : Option Regex :=
  let word : List (Char × Char) := [('a', 'z'), ('A', 'Z'), ('0', '9'), ('_', '_'), ('ª', '﫿')]
  match c with
  | 'w' => some (.member false word)
  | 'W' => some (.member true word)
  | 's' => some (.member false (Shell.classRanges "space"))
  | 'S' => some (.member true (Shell.classRanges "space"))
  | 'b' => some (.wordEdge true true)
  | 'B' => some .noEdge
  | '<' => some (.wordEdge true false)
  | '>' => some (.wordEdge false true)
  | '\x60' => some .start
  | '\'' => some .stop
  | _ => none

/-- Whether a text starts with what ends an alternative. -/
def endsBranch (dialect : Dialect) (depth : Nat) : List Char → Bool
  | [] => true
  | '|' :: _ => dialect = .extended
  | ')' :: _ => dialect = .extended && 0 < depth
  | '\\' :: '|' :: _ => dialect = .plain
  | '\\' :: ')' :: _ => dialect = .plain
  | _ => false

mutual

/-- Alternatives. -/
def alternatives (dialect : Dialect) : (fuel depth groups : Nat) → List Char → Parsed
  | 0, _, _, _ => .error "Regular expression too big"
  | fuel + 1, depth, groups, text => do
    let (first, groups, rest) ← branch dialect fuel depth groups true .empty text
    let others : Option (List Char) := match dialect, rest with
      | .extended, '|' :: rest => some rest
      | .plain, '\\' :: '|' :: rest => some rest
      | _, _ => none
    match others with
    | some rest =>
      let (second, groups, rest) ← alternatives dialect fuel depth groups rest
      return (.either first second, groups, rest)
    | none => return (first, groups, rest)

/-- One alternative, after what was read of it. -/
def branch (dialect : Dialect) : (fuel depth groups : Nat) → (first : Bool) → Regex → List Char → Parsed
  | 0, _, _, _, _, _ => .error "Regular expression too big"
  | fuel + 1, depth, groups, first, before, text =>
    if endsBranch dialect depth text then .ok (before, groups, text)
    else do
      let (atom, groups, rest) ← atom dialect fuel depth groups first text
      let isStart := atom = .start
      let (atom, rest) ← if isStart && dialect = .plain then .ok (atom, rest) else repeatedBy dialect fuel atom rest
      branch dialect fuel depth groups (isStart && dialect = .plain) (.both before atom) rest

/-- One piece without repetitions. -/
def atom (dialect : Dialect) : (fuel depth groups : Nat) → (first : Bool) → List Char → Parsed
  | 0, _, _, _, _ => .error "Regular expression too big"
  | fuel + 1, depth, groups, first, text =>
    let grouped (rest : List Char) : Parsed := do
      let (inner, count, rest) ← alternatives dialect fuel (depth + 1) (groups + 1) rest
      match dialect, rest with
      | .extended, ')' :: rest => return (.group (groups + 1) inner, count, rest)
      | .plain, '\\' :: ')' :: rest => return (.group (groups + 1) inner, count, rest)
      | _, _ => .error "Unmatched ( or \\("
    match dialect, text with
    | _, [] => .ok (.empty, groups, [])
    | _, '.' :: rest => .ok (.any, groups, rest)
    | _, '[' :: rest =>
      let (negated, inner) := match rest with
        | '^' :: inner => (true, inner)
        | inner => (false, inner)
      match membersFrom (inner.length + 1) true [] inner with
      | some (ranges, rest) => .ok (.member negated ranges, groups, rest)
      | none => .error "Unmatched [, [^, [:, [., or [="
    | _, ['\\'] => .error "Trailing backslash"
    | .plain, '\\' :: '(' :: rest => grouped rest
    | .plain, '\\' :: ')' :: _ => .error "Unmatched ) or \\)"
    | .extended, '(' :: rest => grouped rest
    | .extended, '^' :: rest => .ok (.start, groups, rest)
    | .extended, '$' :: rest => .ok (.stop, groups, rest)
    | .plain, '^' :: rest => .ok (if first then .start else exactly '^', groups, rest)
    | .plain, '$' :: rest =>
      .ok (if endsBranch .plain depth rest then .stop else exactly '$', groups, rest)
    | _, '\\' :: c :: rest =>
      match escaped? c with
      | some regex => .ok (regex, groups, rest)
      | none =>
        if '1' ≤ c && c ≤ '9' then
          let index := c.toNat - '0'.toNat
          if groups < index then .error "Invalid back reference" else .ok (.back index, groups, rest)
        else .ok (exactly (if c = 'n' then '\n' else if c = 't' then '\t' else c), groups, rest)
    | _, c :: rest => .ok (exactly c, groups, rest)

end

/-- The expression that a text is. -/
def ofText (dialect : Dialect) (text : List Char) : Except String Regex :=
  match alternatives dialect (8 * text.length + 16) 0 0 text with
  | .error text => .error text
  | .ok (regex, _, []) => .ok regex
  | .ok (_, _, _) => .error "Unmatched ) or \\)"

/-- The expression that stands for a text itself. -/
def literal (text : List Char) : Regex :=
  text.foldl (fun regex c => .both regex (exactly c)) .empty

end Regex

end Utterance.Host
