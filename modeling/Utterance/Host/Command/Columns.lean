import Utterance.Host.Command.Reading

/-!
# Commands on parts of lines

Parts of lines are cut out, joined side by side, folded, and their characters exchanged.
-/

namespace Utterance.Host.Command
set_option autoImplicit false

/-! ## Parts of lines -/

/-- A range of positions from one on; without `last` it is open. -/
structure Span where
  first : Nat
  last : Option Nat
  deriving Inhabited

/-- Whether a position is in a range. -/
def Span.contains (span : Span) (position : Nat) : Bool :=
  span.first ≤ position && span.last.all (position ≤ ·)

/-- A range as it is written, or what is wrong with it. -/
def span? (fields : Bool) (text : Octets) : Except Octets Span :=
  let zero := octets (if fields then "fields are numbered from 1" else "byte/character positions are numbered from 1")
  let wrong (text : Octets) :=
    octets (if fields then "invalid field value " else "invalid byte/character position ") ++ quotedWord text
  let number (text : Octets) : Except Octets Nat :=
    match natural? text with
    | some 0 => .error zero
    | some n => .ok n
    | none => .error (wrong (text.dropWhile (isDigitOf 10)))
  match splitOn '-' text with
  | [[]] => .error zero
  | [single] => (number single).map fun n => ⟨n, some n⟩
  | [[], []] => .error (octets "invalid range with no endpoint: -")
  | [first, []] => (number first).map fun n => ⟨n, none⟩
  | [[], last] => (number last).map fun n => ⟨1, some n⟩
  | [first, last] => do
    let first ← number first
    let last ← number last
    if last < first then .error (octets "invalid decreasing range") else .ok ⟨first, some last⟩
  | _ => .error (octets (if fields then "invalid field range" else "invalid byte or character range"))

/-- The switches of `cut`. -/
def cutSwitches : List Switch :=
  [⟨'b', ["bytes"], true⟩, ⟨'c', ["characters"], true⟩, ⟨'f', ["fields"], true⟩, ⟨'d', ["delimiter"], true⟩,
   ⟨'s', ["only-delimited"], false⟩, ⟨'n', [], false⟩, ⟨'!', ["complement"], false⟩, ⟨'o', ["output-delimiter"], true⟩]

/-- The members of a list at positions that are wanted. -/
def chosen {α : Type} (wanted : Nat → Bool) (list : List α) : List α :=
  (list.zipIdx 1).filterMap fun (a, position) => if wanted position then some a else none

/-- One line cut; `none` if it is left out. -/
def cutLine (given : Given) (wanted : Nat → Bool) (line : Octets) : Option Octets :=
  if given.has 'f' then
    let delimiter := ((given.value? 'd').getD ['\t']).headD '\x00'
    if !line.contains delimiter then (if given.has 's' then none else some line)
    else some (joinWith ((given.value? 'o').getD [delimiter]) (chosen wanted (splitOn delimiter line)))
  else some (chosen wanted line)

/-- Parts of the lines of texts. -/
def cut : Call → Outcome := withSwitches cutSwitches 1 fun call given =>
  let lists := given.switches.filter fun switch => switch.letter = 'b' || switch.letter = 'c' || switch.letter = 'f'
  match lists with
  | [] => call.misused 1 (octets "you must specify a list of bytes, characters, or fields")
  | _ :: _ :: _ => call.misused 1 (octets "only one list may be specified")
  | [list] =>
    if (given.value? 'd').any fun delimiter => 1 < delimiter.length then
      call.misused 1 (octets "the delimiter must be a single character")
    else if list.letter != 'f' && given.has 'd' then
      call.misused 1 (octets "an input delimiter may be specified only when operating on fields")
    else if list.letter != 'f' && given.has 's' then
      call.misused 1 (octets "suppressing non-delimited lines makes sense\n\tonly when operating on fields")
    else
      match (splitOn ',' list.value).mapM (span? (list.letter = 'f')) with
      | .error text => call.misused 1 text
      | .ok spans =>
        let wanted (position : Nat) := (spans.any fun span => span.contains position) != given.has '!'
        eachSource call given.operands fun text => unlines ((linesOf text).filterMap (cutLine given wanted))

/-! ## Lines side by side -/

/-- The delimiters of `paste`, with their escapes replaced. -/
def pasteDelimiters : Octets → List Octets
  | [] => []
  | '\\' :: 'n' :: rest => ['\n'] :: pasteDelimiters rest
  | '\\' :: 't' :: rest => ['\t'] :: pasteDelimiters rest
  | '\\' :: '0' :: rest => [] :: pasteDelimiters rest
  | '\\' :: c :: rest => [c] :: pasteDelimiters rest
  | c :: rest => [c] :: pasteDelimiters rest

/-- Texts with the delimiters between them in turn. -/
def joinInTurn (delimiters : List Octets) (texts : List Octets) : Octets :=
  (texts.zipIdx.map fun (text, i) =>
    if i = 0 then text else (delimiters.getD ((i - 1) % max delimiters.length 1) []) ++ text).flatten

/-- The lines of texts side by side, or with `-s` the lines of each text in one. -/
def paste : Call → Outcome :=
  withSwitches [⟨'d', ["delimiters"], true⟩, ⟨'s', ["serial"], false⟩] 1 fun call given =>
    let delimiters := pasteDelimiters ((given.value? 'd').getD ['\t'])
    let sources := call.sources given.operands
    let complaints := sources.filterMap fun source => match source.contents with
      | .ok _ => none
      | .error target => some (unreadable call source.label target)
    let texts := sources.filterMap fun source => (source.contents.toOption).map linesOf
    let call := call.afterReading given.operands
    if given.has 's' then
      ended call (complaints ++ [(.stdout, unlines (texts.map (joinInTurn delimiters)))])
    else if !complaints.isEmpty then ended call (complaints.take 1)
    else
      let height := (texts.map List.length).foldl max 0
      let rows := (List.range height).map fun i => joinInTurn delimiters (texts.map fun lines => lines.getD i [])
      ended call [(.stdout, unlines rows)]

/-! ## Folded lines -/

/-- A line cut into rows of at most some width, after blanks if that is wanted; at most `fuel` rows. -/
def foldRows (width : Nat) (atBlanks : Bool) : (fuel : Nat) → Octets → List Octets
  | 0, line => [line]
  | fuel + 1, line =>
    if line.length ≤ width then [line]
    else
      let row := line.take width
      let toBlank := (row.reverse.dropWhile fun c => c != ' ').reverse
      let row := if atBlanks && !toBlank.isEmpty then toBlank else row
      row :: foldRows width atBlanks fuel (line.drop row.length)

/-- Lines folded to a width. -/
def fold : Call → Outcome :=
  withSwitches [⟨'w', ["width"], true⟩, ⟨'s', ["spaces"], false⟩, ⟨'b', ["bytes"], false⟩] 1 fun call given =>
    let width := match given.value? 'w' with
      | none => some 80
      | some text => natural? text
    match width with
    | none => call.fail 1 (octets "invalid number of columns: " ++ quotedWord ((given.value? 'w').getD []))
    | some 0 => call.fail 1 (octets "invalid number of columns: " ++ quotedWord ['0'])
    | some width =>
      eachSource call given.operands fun text =>
        joinWith ['\n'] ((splitOn '\n' text).map fun line =>
          joinWith ['\n'] (foldRows width (given.has 's') line.length line))

/-- Lines with tabs as blanks. -/
def expandTabs : Call → Outcome :=
  withSwitches [⟨'t', ["tabs"], true⟩, ⟨'i', ["initial"], false⟩] 1 fun call given =>
    let stop := max (((given.value? 't').bind natural?).getD 8) 1
    let line (text : Octets) : Octets := (text.foldl (fun (row : Octets) c =>
      if c = '\t' then timesOf (stop - row.length % stop) ' ' ++ row else c :: row) []).reverse
    eachSource call given.operands fun text => joinWith ['\n'] ((splitOn '\n' text).map line)

/-! ## Characters exchanged -/

/-- The characters of a class. -/
def classMembers? (name : String) : Option Octets :=
  let all := (List.range 256).map Char.ofNat
  match name with
  | "alpha" => some (all.filter Char.isAlpha)
  | "digit" => some (all.filter Char.isDigit)
  | "alnum" => some (all.filter Char.isAlphanum)
  | "upper" => some (all.filter Char.isUpper)
  | "lower" => some (all.filter Char.isLower)
  | "space" => some (all.filter isSpace)
  | "blank" => some ['\t', ' ']
  | "punct" => some (all.filter fun c => isPrinted c && !c.isAlphanum && c != ' ')
  | "print" => some (all.filter isPrinted)
  | "graph" => some (all.filter fun c => isPrinted c && c != ' ')
  | "cntrl" => some (all.filter isControl)
  | "xdigit" => some (all.filter (isDigitOf 16))
  | _ => none

/-- A character of a set as it is written, with its escapes, and the rest. -/
def setCharacter : Octets → Option (Char × Octets)
  | [] => none
  | '\\' :: c :: rest =>
    if isDigitOf 8 c then
      let digits := ((c :: rest).take 3).takeWhile (isDigitOf 8)
      some (Char.ofNat (numberOf 8 digits % 256), (c :: rest).drop digits.length)
    else
      let letters : List (Char × Char) :=
        [('a', '\x07'), ('b', '\x08'), ('f', '\x0c'), ('n', '\n'), ('r', '\r'), ('t', '\t'), ('v', '\x0b')]
      some ((letters.lookup c).getD c, rest)
  | c :: rest => some (c, rest)

/-- A piece of a set: characters, or one that fills the set up. -/
inductive SetPiece where
  | members (characters : Octets)
  | filling (c : Char)
  deriving Inhabited

/-- A piece in brackets after the opening one, and the rest. -/
def bracketPiece (text : Octets) : Option (SetPiece × Octets) :=
  match text with
  | ':' :: rest =>
    let name := rest.takeWhile (· != ':')
    match rest.drop name.length with
    | ':' :: ']' :: after => (classMembers? (String.ofList name)).map fun members => (.members members, after)
    | _ => none
  | '=' :: c :: '=' :: ']' :: after => some (.members [c], after)
  | _ =>
    match setCharacter text with
    | some (c, '*' :: rest) =>
      let digits := rest.takeWhile (isDigitOf 10)
      match rest.drop digits.length with
      | ']' :: after =>
        let count := numberOf (if digits.head? = some '0' then 8 else 10) digits
        some (if count = 0 then .filling c else .members (timesOf count c), after)
      | _ => none
    | _ => none

/-- The pieces of a set; at most `fuel` of them. -/
def setPieces : (fuel : Nat) → Octets → Except Octets (List SetPiece)
  | 0, _ => .ok []
  | _, [] => .ok []
  | fuel + 1, text =>
    let bracket := match text with
      | '[' :: rest => bracketPiece rest
      | _ => none
    match bracket with
    | some (piece, rest) => (setPieces fuel rest).map (piece :: ·)
    | none =>
      match setCharacter text with
      | none => .ok []
      | some (c, rest) =>
        let range := match rest with
          | '-' :: more => setCharacter more
          | _ => none
        match range with
        | some (last, rest) =>
          if last < c then
            .error (octets "range-endpoints of '" ++ [c, '-', last] ++
              octets "' are in reverse collating sequence order")
          else
            let members := (List.range (last.toNat + 1 - c.toNat)).map fun i => Char.ofNat (c.toNat + i)
            (setPieces fuel rest).map (.members members :: ·)
        | none => (setPieces fuel rest).map (.members [c] :: ·)

/-- The characters of a set, with one that fills it up to a length. -/
def setMembers (length : Nat) (pieces : List SetPiece) : Octets :=
  let fixed := pieces.foldl (fun total piece => total + match piece with
    | .members characters => characters.length
    | .filling _ => 0) 0
  pieces.flatMap fun
    | .members characters => characters
    | .filling c => timesOf (length - fixed) c

/-- A text without repeats of the characters of a set, after a character that was kept. -/
def squeezed (set : Char → Bool) : (last : Option Char) → (kept : Octets) → Octets → Octets
  | _, kept, [] => kept.reverse
  | last, kept, c :: rest =>
    if some c = last && set c then squeezed set last kept rest else squeezed set (some c) (c :: kept) rest

/-- The switches of `tr`. -/
def trSwitches : List Switch :=
  [⟨'c', ["complement"], false⟩, ⟨'C', [], false⟩, ⟨'d', ["delete"], false⟩, ⟨'s', ["squeeze-repeats"], false⟩,
   ⟨'t', ["truncate-set1"], false⟩]

/-- What is wrong with the number of sets. -/
def setCountFault? (call : Call) (deleting squeezing : Bool) (operands : List Octets) : Option Outcome :=
  let advice (text : String) (word : Octets) (more : String) := some (call.done 1 []
    (call.complaint (octets text ++ quotedWord word) ++ octets more ++ call.helpLine))
  match operands with
  | [] => some (call.misused 1 (octets "missing operand"))
  | [single] =>
    if deleting && squeezing then
      advice "missing operand after " single "Two strings must be given when both deleting and squeezing repeats.\n"
    else if deleting || squeezing then none
    else advice "missing operand after " single "Two strings must be given when translating.\n"
  | [_, second] =>
    if deleting && !squeezing then
      advice "extra operand " second "Only one string may be given when deleting without squeezing repeats.\n"
    else none
  | _ :: _ :: third :: _ => advice "extra operand " third ""

/-- The input with characters exchanged, deleted or squeezed. -/
def tr (call : Call) : Outcome :=
  match readSwitches trSwitches false call.arguments with
  | .error text => call.misused 1 text
  | .ok given =>
    let deleting := given.has 'd'
    let squeezing := given.has 's'
    match setCountFault? call deleting squeezing given.operands with
    | some outcome => outcome
    | none =>
      let first := given.operands.headD []
      let second := (given.operands.drop 1).headD []
      match setPieces first.length first, setPieces second.length second with
      | .error text, _ => call.fail 1 text
      | _, .error text => call.fail 1 text
      | .ok firstPieces, .ok secondPieces =>
        let written := setMembers 0 firstPieces
        let from1 := if given.has 'c' || given.has 'C' then
            (List.range 256).map Char.ofNat |>.filter fun c => !written.contains c
          else written
        let into := setMembers from1.length secondPieces
        let isFirst (c : Char) := from1.contains c
        let isSecond (c : Char) := into.contains c
        let finish (text : Octets) := { call with input := [] }.done 0 text
        if deleting then
          let kept := call.input.filter fun c => !isFirst c
          finish (if squeezing then squeezed isSecond none [] kept else kept)
        else if given.operands.length = 1 then finish (squeezed isFirst none [] call.input)
        else
          match into.getLast? with
          | none => call.fail 1 (octets "when not truncating set1, string2 must be non-empty")
          | some filler =>
            let table := (from1.zip (into ++ timesOf (from1.length - into.length) filler)).reverse
            let text := call.input.map fun c => (table.lookup c).getD c
            finish (if squeezing then squeezed isSecond none [] text else text)

end Utterance.Host.Command
