import Utterance.Host.Command.Reading
import Utterance.Host.Regex

/-!
# Looking for expressions

Lines in which an expression is found, and the values of small expressions over texts and numbers.
-/

namespace Utterance.Host.Command
set_option autoImplicit false

/-! ## Lines -/

/-- The switches of `grep`. -/
def grepSwitches : List Switch :=
  [⟨'E', ["extended-regexp"], false⟩, ⟨'F', ["fixed-strings"], false⟩, ⟨'G', ["basic-regexp"], false⟩,
   ⟨'i', ["ignore-case"], false⟩, ⟨'y', [], false⟩, ⟨'v', ["invert-match"], false⟩, ⟨'c', ["count"], false⟩,
   ⟨'n', ["line-number"], false⟩, ⟨'l', ["files-with-matches"], false⟩, ⟨'L', ["files-without-match"], false⟩,
   ⟨'q', ["quiet", "silent"], false⟩, ⟨'s', ["no-messages"], false⟩, ⟨'o', ["only-matching"], false⟩,
   ⟨'w', ["word-regexp"], false⟩, ⟨'x', ["line-regexp"], false⟩, ⟨'h', ["no-filename"], false⟩,
   ⟨'H', ["with-filename"], false⟩, ⟨'a', ["text"], false⟩, ⟨'e', ["regexp"], true⟩, ⟨'m', ["max-count"], true⟩,
   ⟨'A', ["after-context"], true⟩, ⟨'B', ["before-context"], true⟩, ⟨'C', ["context"], true⟩, ⟨'f', ["file"], true⟩,
   ⟨'r', ["recursive"], false⟩, ⟨'R', ["dereference-recursive"], false⟩]

/-- The expression that several patterns are together, with the conditions that switches make. -/
def grepRegex (given : Given) (patterns : List Octets) : Except String Regex := do
  let single (pattern : Octets) : Except String Regex :=
    let text := (toText pattern).toList
    if given.has 'F' then .ok (Regex.literal text)
    else Regex.ofText (if given.has 'E' then .extended else .plain) text
  let all ← patterns.mapM single
  let regex := match all with
    | [] => Regex.member false []
    | first :: rest => rest.foldl Regex.either first
  return if given.has 'x' then .both .start (.both regex .stop)
    else if given.has 'w' then .both (.outside false) (.both regex (.outside true))
    else regex

/-- A line with its number, and whether it is wanted. -/
structure GrepLine where
  number : Nat
  text : Octets
  wanted : Bool
  deriving Inhabited

/-- The lines to be shown around the wanted ones, in groups that belong together. -/
def grepGroups (before after : Nat) (lines : List GrepLine) : List (List GrepLine) :=
  let hits := (lines.filter GrepLine.wanted).map GrepLine.number
  let near (n : Nat) : Bool := hits.any fun hit => (n ≤ hit && hit ≤ n + before) || (hit ≤ n && n ≤ hit + after)
  let shown := lines.filter fun line => near line.number
  shown.foldr (fun line groups =>
    match groups with
    | (next :: more) :: rest =>
      if next.number = line.number + 1 then (line :: next :: more) :: rest else [line] :: (next :: more) :: rest
    | rest => [line] :: rest) []

/-- Lines up to the one that is wanted as the last. -/
def upToCount : (most : Nat) → List GrepLine → List GrepLine
  | _, [] => []
  | 0, line :: rest => { line with wanted := false } :: upToCount 0 rest
  | most + 1, line :: rest => line :: upToCount (if line.wanted then most else most + 1) rest

/-- What is shown of one text, and whether a line of it is wanted. -/
def grepText (given : Given) (regex : Regex) (named : Bool) (label text : Octets) :
    List (Stream × Octets) × Bool :=
  let anyCase := given.has 'i' || given.has 'y'
  let number (letter : Char) : Option Nat := (given.value? letter).bind natural?
  let fits (line : Octets) : Bool := (regex.find? anyCase (toText line).toList).isSome
  let all : List GrepLine := (linesOf text).zipIdx.map fun (line, i) => ⟨i + 1, line, fits line != given.has 'v'⟩
  let lines := match number 'm' with
    | some most => upToCount most all
    | none => all
  let hits := lines.filter GrepLine.wanted
  let name := if named then label ++ [':'] else []
  let shown (line : GrepLine) (text : Octets) : Octets :=
    let mark := if line.wanted then ':' else '-'
    let number := if given.has 'n' then digitsOf 10 line.number ++ [mark] else []
    (if named then label ++ [mark] else []) ++ number ++ text ++ ['\n']
  let isBinary := !given.has 'a' && (text.contains '\x00' || (Text.Encoding.utf8.decode (toBytes text)).toOption.isNone)
  let output :=
    if given.has 'q' then []
    else if given.has 'c' then name ++ digitsOf 10 hits.length ++ ['\n']
    else if given.has 'l' then if hits.isEmpty then [] else label ++ ['\n']
    else if given.has 'L' then if hits.isEmpty then label ++ ['\n'] else []
    else if isBinary then []
    else if given.has 'o' then
      if given.has 'v' then []
      else hits.flatMap fun line =>
        let chars := (toText line.text).toList
        let found := (regex.findAll anyCase (chars.length + 2) none 0 false chars).1
        (found.filter fun fit => !fit.text.isEmpty).flatMap fun fit => shown line (octets (String.ofList fit.text))
    else
      let around := number 'C'
      let (before, after) := ((number 'B' <|> around).getD 0, (number 'A' <|> around).getD 0)
      let groups := grepGroups before after lines
      let blocks := groups.map fun group => group.flatMap fun line => shown line line.text
      if before = 0 && after = 0 then blocks.flatten else joinWith (octets "--\n") blocks
  let plain := given.has 'q' || given.has 'c' || given.has 'l' || given.has 'L'
  let complaint :=
    if isBinary && !plain && !hits.isEmpty then octets "grep: " ++ label ++ octets ": binary file matches\n" else []
  ([(.stdout, output), (.stderr, complaint)], if given.has 'L' then hits.isEmpty else !hits.isEmpty)

/-- The files below a place, each with the path that leads to it. -/
def filesBelow (call : Call) (label : Octets) (names : List String) : List Source :=
  let labelled := (call.files.tree names).1.map fun (path, bytes) =>
    (⟨joinWith ['/'] (label :: path.map octets), .ok (ofBytes bytes)⟩ : Source)
  labelled.mergeSort fun a b => inOctetOrder a.label b.label

/-- The lines of texts in which patterns are found. -/
def grep (call : Call) : Outcome :=
  let usage := octets "Usage: grep [OPTION]... PATTERNS [FILE]...\n" ++ call.helpLine
  match readSwitches grepSwitches true call.arguments with
  | .error text => call.done 2 [] (call.complaint text ++ usage)
  | .ok given =>
    let explicit := given.switches.filterMap fun switch => if switch.letter = 'e' then some switch.value else none
    let listed := (given.value? 'f').map fun name => match call.find name with
      | .file _ bytes => linesOf (ofBytes bytes)
      | _ => []
    let (patterns, operands) := match explicit, listed, given.operands with
      | [], none, [] => ([], none)
      | [], none, pattern :: operands => (splitOn '\n' pattern, some operands)
      | explicit, listed, operands => (explicit.flatMap (splitOn '\n') ++ listed.getD [], some operands)
    match operands with
    | none => call.done 2 [] usage
    | some operands =>
      match grepRegex given patterns with
      | .error text => call.fail 2 (octets text)
      | .ok regex =>
        let recursive := given.has 'r' || given.has 'R'
        let sources := (call.sources operands).flatMap fun source => match source.contents with
          | .error (.directory names) => if recursive then filesBelow call source.label names else [source]
          | _ => [source]
        let named := match given.last? ['h', 'H'] with
          | some 'h' => false
          | some _ => true
          | none => 1 < operands.length || recursive
        let results := sources.map fun source =>
          let label := if source.label = ['-'] then octets "(standard input)" else source.label
          match source.contents with
          | .ok text =>
            let (writes, found) := grepText given regex named label text
            (writes, found, false)
          | .error target =>
            ([(Stream.stderr, if given.has 's' then [] else
              call.complaint (label ++ octets (": " ++ targetMessage target)))], false, true)
        let found := results.any fun result => result.2.1
        let failed := results.any fun result => result.2.2
        let call := call.afterReading operands
        { status := if found && (given.has 'q' || !failed) then 0 else if failed then 2 else 1
          writes := results.flatMap Prod.fst, files := call.files, input := call.input }

/-! ## Values -/

/-- A whole number as it is written. -/
def integer? (word : Octets) : Option Int :=
  match word with
  | '-' :: digits => (natural? digits).map fun n => -(n : Int)
  | digits => (natural? digits).map fun n => (n : Int)

/-- A number as a text. -/
def integerText (n : Int) : Octets :=
  (if n < 0 then ['-'] else []) ++ digitsOf 10 n.natAbs

/-- Whether a value counts as nothing. -/
def isNothing (value : Octets) : Bool :=
  value.isEmpty || (integer? value).any (· = 0)

/-- The part of a text that an expression fits from its start on: the first group, or how many characters. -/
def fitted (text pattern : Octets) : Except Octets Octets :=
  let hasGroup := Shell.someRest ("\\(".toList.isPrefixOf ·) pattern
  match Regex.ofText .plain (toText pattern).toList with
  | .error reason => .error (octets reason)
  | .ok regex =>
    match Regex.walk false regex { rest := (toText text).toList } some with
    | some spot =>
      if hasGroup then .ok (octets (String.ofList ((spot.groups.lookup 1).getD [])))
      else .ok (digitsOf 10 spot.position)
    | none => .ok (if hasGroup then [] else ['0'])

/-- The operators by how tightly they bind, the loosest first. -/
def valueOperators : List (List String) :=
  [["|"], ["&"], ["<", "<=", "=", "==", "!=", ">=", ">"], ["+", "-"], ["*", "/", "%"], [":"]]

/-- The value of an operator. -/
def operated (operator : String) (a b : Octets) : Except Octets Octets :=
  let truth (holds : Bool) : Except Octets Octets := .ok (if holds then ['1'] else ['0'])
  let compared (numbers : Int → Int → Bool) (texts : Octets → Octets → Bool) : Except Octets Octets :=
    match integer? a, integer? b with
    | some m, some n => truth (numbers m n)
    | _, _ => truth (texts a b)
  let arithmetic (work : Int → Int → Except Octets Int) : Except Octets Octets :=
    match integer? a, integer? b with
    | some m, some n => (work m n).map integerText
    | _, _ => .error (octets "non-integer argument")
  let divided (work : Int → Int → Int) : Except Octets Octets :=
    arithmetic fun m n => if n = 0 then .error (octets "division by zero") else .ok (work m n)
  match operator with
  | "|" => .ok (if !isNothing a then a else if !isNothing b then b else ['0'])
  | "&" => .ok (if isNothing a || isNothing b then ['0'] else a)
  | "<" => compared (fun m n => m < n) (fun a b => !inOctetOrder b a)
  | "<=" => compared (fun m n => m ≤ n) inOctetOrder
  | ">" => compared (fun m n => n < m) (fun a b => !inOctetOrder a b)
  | ">=" => compared (fun m n => n ≤ m) (fun a b => inOctetOrder b a)
  | "!=" => compared (fun m n => m != n) (fun a b => a != b)
  | "+" => arithmetic fun m n => .ok (m + n)
  | "-" => arithmetic fun m n => .ok (m - n)
  | "*" => arithmetic fun m n => .ok (m * n)
  | "/" => divided Int.tdiv
  | "%" => divided Int.tmod
  | ":" => fitted a b
  | _ => compared (fun m n => m = n) (fun a b => a = b)

/-- A value and the words after it; `last` is the word before those that are left. -/
abbrev Evaluated := Except Octets (Octets × List Octets)

/-- What is said when a word is missing after another. -/
def missingWord (last : Octets) : Octets :=
  octets "syntax error: missing argument after " ++ quotedWord last

mutual

/-- A value with operators that bind at least as tightly as those of the levels. -/
def valueAt : (fuel : Nat) → (levels : List (List String)) → (last : Octets) → List Octets → Evaluated
  | 0, _, _, _ => .error (octets "syntax error")
  | fuel + 1, [], last, words => operandValue fuel last words
  | fuel + 1, level :: levels, last, words => do
    let (value, rest) ← valueAt fuel levels last words
    moreValues fuel level levels value rest

/-- A value after its first operand. -/
def moreValues : (fuel : Nat) → (level : List String) → (levels : List (List String)) → Octets → List Octets → Evaluated
  | 0, _, _, _, _ => .error (octets "syntax error")
  | fuel + 1, level, levels, value, word :: rest =>
    if level.contains (toText word) then do
      let (second, rest) ← valueAt fuel levels word rest
      moreValues fuel level levels (← operated (toText word) value second) rest
    else .ok (value, word :: rest)
  | _, _, _, value, [] => .ok (value, [])

/-- An operand: a value in parentheses, a function of operands, or a word. -/
def operandValue : (fuel : Nat) → (last : Octets) → List Octets → Evaluated
  | 0, _, _ => .error (octets "syntax error")
  | _, last, [] => .error (missingWord last)
  | fuel + 1, _, word :: rest =>
    match toText word with
    | "(" => do
      let (value, rest) ← valueAt fuel valueOperators word rest
      match rest with
      | [')'] :: rest => return (value, rest)
      | [] => .error (octets "syntax error: expecting ')' after " ++ quotedWord value)
      | other :: _ => .error (octets "syntax error: expecting ')' instead of " ++ quotedWord other)
    | ")" => .error (octets "syntax error: unexpected ')'")
    | "+" =>
      match rest with
      | value :: rest => .ok (value, rest)
      | [] => .error (missingWord word)
    | "length" => do
      let (text, rest) ← operandValue fuel word rest
      return (digitsOf 10 (toText text).length, rest)
    | "match" => do
      let (text, rest) ← operandValue fuel word rest
      let (pattern, rest) ← operandValue fuel text rest
      return (← fitted text pattern, rest)
    | "index" => do
      let (text, rest) ← operandValue fuel word rest
      let (set, rest) ← operandValue fuel text rest
      let chars := (toText text).toList
      let found := chars.findIdx? fun c => (toText set).toList.contains c
      return (digitsOf 10 ((found.map (· + 1)).getD 0), rest)
    | "substr" => do
      let (text, rest) ← operandValue fuel word rest
      let (position, rest) ← operandValue fuel text rest
      let (count, rest) ← operandValue fuel position rest
      match integer? position, integer? count with
      | some position, some count =>
        if position ≤ 0 || count ≤ 0 then return ([], rest)
        else return (octets (String.ofList (((toText text).toList.drop (position.toNat - 1)).take count.toNat)), rest)
      | _, _ => return ([], rest)
    | _ => .ok (word, rest)

end

/-- The value of an expression given by words. -/
def expr (call : Call) : Outcome :=
  let words := match call.arguments with
    | ['-', '-'] :: rest => rest
    | words => words
  match words with
  | [] => call.misused 2 (octets "missing operand")
  | words =>
    match valueAt (16 * words.length + 32) valueOperators [] words with
    | .error text => call.fail 2 text
    | .ok (value, []) => call.done (if isNothing value then 1 else 0) (value ++ ['\n'])
    | .ok (_, extra :: _) => call.fail 2 (octets "syntax error: unexpected argument " ++ quotedWord extra)

end Utterance.Host.Command
