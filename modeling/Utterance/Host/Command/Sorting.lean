import Utterance.Host.Command.Columns

/-!
# Commands on whole lines

Lines are put in order, compared with their neighbours and with those of another text.
-/

namespace Utterance.Host.Command
set_option autoImplicit false

/-! ## Neighbours -/

/-- The switches of `uniq`. -/
def uniqSwitches : List Switch :=
  [⟨'c', ["count"], false⟩, ⟨'d', ["repeated"], false⟩, ⟨'u', ["unique"], false⟩, ⟨'i', ["ignore-case"], false⟩,
   ⟨'f', ["skip-fields"], true⟩, ⟨'s', ["skip-chars"], true⟩, ⟨'w', ["check-chars"], true⟩,
   ⟨'z', ["zero-terminated"], false⟩]

/-- A line without its first fields. -/
def skipFields : Nat → Octets → Octets
  | 0, line => line
  | count + 1, line =>
    let isBlank (c : Char) : Bool := c = ' ' || c = '\t'
    skipFields count ((line.dropWhile isBlank).dropWhile fun c => !isBlank c)

/-- The part of a line that is compared. -/
def comparedPart (given : Given) (line : Octets) : Octets :=
  let number (letter : Char) := (given.value? letter).bind natural?
  let line := (skipFields ((number 'f').getD 0) line).drop ((number 's').getD 0)
  let line := match number 'w' with
    | some most => line.take most
    | none => line
  if given.has 'i' then line.map Char.toUpper else line

/-- Runs of lines that count as equal, each with its first line and its length, after runs that are complete. -/
def runsFrom (part : Octets → Octets) : (runs : List (Octets × Nat)) → List Octets → List (Octets × Nat)
  | runs, [] => runs.reverse
  | [], line :: rest => runsFrom part [(line, 1)] rest
  | (first, count) :: runs, line :: rest =>
    if part first == part line then runsFrom part ((first, count + 1) :: runs) rest
    else runsFrom part ((line, 1) :: (first, count) :: runs) rest

/-- The lines of a text without repeats of the line before. -/
def uniq : Call → Outcome := withSwitches uniqSwitches 1 fun call given =>
  let separator := if given.has 'z' then '\x00' else '\n'
  match given.operands with
  | _ :: _ :: extra :: _ => call.misused 1 (octets "extra operand " ++ quotedWord extra)
  | operands =>
    let inputs := operands.take 1
    match call.sources inputs with
    | [] => call.done 0 []
    | source :: _ =>
      match source.contents with
      | .error (.directory _) =>
        call.fail 1 (octets "error reading " ++ quotedName source.label ++ octets ": Is a directory")
      | .error target => call.fail 1 (shownName source.label ++ octets (": " ++ targetMessage target))
      | .ok text =>
        let runs := (runsFrom (comparedPart given) [] (linesOf text separator)).filter fun run =>
          if given.has 'd' && given.has 'u' then false
          else if given.has 'd' then 1 < run.2
          else if given.has 'u' then run.2 == 1
          else true
        let lines := runs.map fun run =>
          if given.has 'c' then padLeft 7 (digitsOf 10 run.2) ++ ' ' :: run.1 else run.1
        let call := call.afterReading inputs
        match operands.drop 1 with
        | [] => call.done 0 (unlines lines separator)
        | name :: _ =>
          match call.find name with
          | .file names _ => { call with files := storeText call.files names false (unlines lines separator) }.done 0 []
          | .free names => { call with files := storeText call.files names false (unlines lines separator) }.done 0 []
          | target => call.fail 1 (shownName name ++ octets (": " ++ targetMessage target))

/-! ## Order -/

/-- How the parts of lines are compared. -/
structure LineOrder where
  numeric : Bool := false
  reversed : Bool := false
  foldCase : Bool := false
  dictionary : Bool := false
  printed : Bool := false
  skipBlanks : Bool := false
  deriving DecidableEq, Inhabited

/-- The order with what a letter asks for. -/
def LineOrder.withLetter (order : LineOrder) : Char → LineOrder
  | 'n' => { order with numeric := true }
  | 'g' => { order with numeric := true }
  | 'h' => { order with numeric := true }
  | 'r' => { order with reversed := true }
  | 'f' => { order with foldCase := true }
  | 'd' => { order with dictionary := true }
  | 'i' => { order with printed := true }
  | 'b' => { order with skipBlanks := true }
  | _ => order

/-- A number at the start of a text: whether it is below zero, its whole part and its places. -/
def leadingNumber (text : Octets) : Bool × Nat × Octets :=
  let text := text.dropWhile fun c => c = ' ' || c = '\t'
  let (negative, text) := match text with
    | '-' :: rest => (true, rest)
    | _ => (false, text)
  let whole := text.takeWhile (isDigitOf 10)
  let places := match text.drop whole.length with
    | '.' :: rest => ((rest.takeWhile (isDigitOf 10)).reverse.dropWhile (· = '0')).reverse
    | _ => []
  (negative && (numberOf 10 whole != 0 || !places.isEmpty), numberOf 10 whole, places)

/-- The order of two texts by the numbers they start with. -/
def compareNumbers (a b : Octets) : Ordering :=
  let (negativeA, wholeA, placesA) := leadingNumber a
  let (negativeB, wholeB, placesB) := leadingNumber b
  let sizes := (compare wholeA wholeB).then (compareOctets placesA placesB)
  match negativeA, negativeB with
  | false, false => sizes
  | true, true => sizes.swap
  | true, false => .lt
  | false, true => .gt

/-- The order of two parts of lines. -/
def LineOrder.compare (order : LineOrder) (a b : Octets) : Ordering :=
  let kept (text : Octets) : Octets :=
    let text := if order.dictionary then text.filter fun c => c.isAlphanum || c = ' ' || c = '\t' else text
    let text := if order.printed then text.filter isPrinted else text
    if order.foldCase then text.map Char.toUpper else text
  let result := if order.numeric then compareNumbers a b else compareOctets (kept a) (kept b)
  if order.reversed then result.swap else result

/-- A place in a line: a field and a character in it, and whether blanks are skipped before it. -/
structure KeyPlace where
  field : Nat
  character : Nat
  skipBlanks : Bool
  deriving Inhabited

/-- A part of a line to compare: where it starts and ends, and how it is compared. -/
structure SortKey where
  first : KeyPlace
  last : Option KeyPlace
  order : LineOrder
  deriving Inhabited

/-- Whether a character is a blank. -/
def isBlankOctet (c : Char) : Bool :=
  c = ' ' || c = '\t'

/-- The number of octets in the first fields of a line. With a tab, the last one is counted only if `closed`. -/
def fieldsLength (tab : Option Char) (closed : Bool) : Nat → Octets → Nat
  | 0, _ => 0
  | count + 1, line =>
    match tab with
    | some tab =>
      let field := line.takeWhile (· != tab)
      let separator := if field.length < line.length && (0 < count || closed) then 1 else 0
      field.length + separator + fieldsLength (some tab) closed count (line.drop (field.length + separator))
    | none =>
      let blanks := line.takeWhile isBlankOctet
      let field := (line.drop blanks.length).takeWhile fun c => !isBlankOctet c
      let size := blanks.length + field.length
      size + fieldsLength none closed count (line.drop size)

/-- The part of a line that a key is about. -/
def SortKey.part (key : SortKey) (tab : Option Char) (line : Octets) : Octets :=
  let skip (start : Nat) (blanks : Bool) : Nat :=
    if blanks then start + ((line.drop start).takeWhile isBlankOctet).length else start
  let start := skip (fieldsLength tab true (key.first.field - 1) line) key.first.skipBlanks + (key.first.character - 1)
  let stop := match key.last with
    | none => line.length
    | some last =>
      if last.character = 0 then fieldsLength tab false last.field line
      else skip (fieldsLength tab true (last.field - 1) line) last.skipBlanks + last.character
  (line.take stop).drop start

/-- A place as it is written: its numbers, and the letters after them. -/
def keyPlace? (text : Octets) : Option (Nat × Option Nat × Octets) :=
  let field := text.takeWhile (isDigitOf 10)
  if field.isEmpty then none
  else
    match text.drop field.length with
    | '.' :: rest =>
      let character := rest.takeWhile (isDigitOf 10)
      if character.isEmpty then none
      else some (numberOf 10 field, some (numberOf 10 character), rest.drop character.length)
    | rest => some (numberOf 10 field, none, rest)

/-- A key as it is written. Without letters of its own it is compared like whole lines. -/
def sortKey? (whole : LineOrder) (text : Octets) : Option SortKey :=
  match splitOn ',' text with
  | [first] =>
    (keyPlace? first).map fun (field, character, letters) =>
      let order := if letters.isEmpty then whole else letters.foldl LineOrder.withLetter {}
      ⟨⟨field, character.getD 1, order.skipBlanks⟩, none, order⟩
  | [first, last] =>
    match keyPlace? first, keyPlace? last with
    | some (field, character, letters), some (lastField, lastCharacter, lastLetters) =>
      let own := !(letters.isEmpty && lastLetters.isEmpty)
      let order := if own then (letters ++ lastLetters).foldl LineOrder.withLetter {} else whole
      let blanks (letters : Octets) := if own then letters.contains 'b' else whole.skipBlanks
      some ⟨⟨field, character.getD 1, blanks letters⟩,
        some ⟨lastField, lastCharacter.getD 0, blanks lastLetters⟩, order⟩
    | _, _ => none
  | _ => none

/-- The switches of `sort`. -/
def sortSwitches : List Switch :=
  [⟨'n', ["numeric-sort"], false⟩, ⟨'g', ["general-numeric-sort"], false⟩, ⟨'h', ["human-numeric-sort"], false⟩,
   ⟨'r', ["reverse"], false⟩, ⟨'f', ["ignore-case"], false⟩, ⟨'d', ["dictionary-order"], false⟩,
   ⟨'i', ["ignore-nonprinting"], false⟩, ⟨'b', ["ignore-leading-blanks"], false⟩, ⟨'u', ["unique"], false⟩,
   ⟨'s', ["stable"], false⟩, ⟨'m', ["merge"], false⟩, ⟨'c', ["check"], false⟩, ⟨'C', [], false⟩,
   ⟨'k', ["key"], true⟩, ⟨'t', ["field-separator"], true⟩, ⟨'o', ["output"], true⟩, ⟨'z', ["zero-terminated"], false⟩]

/-- The order of two lines. -/
def compareLines (keys : List SortKey) (tab : Option Char) (whole : LineOrder) (lastResort : Bool) (a b : Octets) :
    Ordering :=
  let byKeys :=
    if keys.isEmpty then
      let trim (line : Octets) := if whole.skipBlanks then line.dropWhile isBlankOctet else line
      whole.compare (trim a) (trim b)
    else keys.foldl (fun result key => result.then (key.order.compare (key.part tab a) (key.part tab b))) .eq
  if lastResort then byKeys.then (if whole.reversed then (compareOctets a b).swap else compareOctets a b) else byKeys

/-- The first line that is out of order, with its number. -/
def disorder? (ordered : Octets → Octets → Bool) : (number : Nat) → List Octets → Option (Nat × Octets)
  | _, [] => none
  | _, [_] => none
  | number, a :: b :: rest => if ordered a b then disorder? ordered (number + 1) (b :: rest) else some (number + 1, b)

/-- The lines of texts in order. -/
def sort : Call → Outcome := withSwitches sortSwitches 2 fun call given =>
  let whole := given.switches.foldl (fun order switch =>
    if switch.letter = 'k' || switch.letter = 't' || switch.letter = 'o' then order
    else order.withLetter switch.letter) ({} : LineOrder)
  let keyTexts := (given.switches.filter fun switch => switch.letter = 'k').map GivenSwitch.value
  let separator := if given.has 'z' then '\x00' else '\n'
  match keyTexts.find? fun text => (sortKey? whole text).isNone with
  | some text =>
    call.fail 2 (octets "invalid number at field start: invalid count at start of " ++ quotedWord text)
  | none =>
    let tabText := given.value? 't'
    if tabText == some [] then call.fail 2 (octets "empty tab")
    else if tabText.any fun text => 1 < text.length then
      call.fail 2 (octets "multi-character tab " ++ quotedWord (tabText.getD []))
    else
      let tab := tabText.bind List.head?
      let keys := keyTexts.filterMap (sortKey? whole)
      let sources := call.sources given.operands
      let unread := sources.findSome? fun source => match source.contents with
        | .ok _ => none
        | .error (.directory _) => some (octets "read failed: " ++ shownName source.label ++ octets ": Is a directory")
        | .error target =>
          some (octets "cannot read: " ++ shownName source.label ++ octets (": " ++ targetMessage target))
      match unread with
      | some text => call.fail 2 text
      | none =>
        let lines := sources.flatMap fun source => linesOf (source.contents.toOption.getD []) separator
        let order := compareLines keys tab whole (!(given.has 's' || given.has 'u'))
        let call := call.afterReading given.operands
        if given.has 'c' || given.has 'C' then
          let ordered (a b : Octets) := if given.has 'u' then order a b == .lt else order a b != .gt
          match disorder? ordered 1 lines with
          | none => call.done 0 []
          | some (number, line) =>
            let label := (sources.headD ⟨['-'], .ok []⟩).label
            if given.has 'C' then call.done 1 []
            else call.fail 1 (shownName label ++ octets (":" ++ toString number ++ ": disorder: ") ++ line)
        else
          let sorted := lines.mergeSort fun a b => order a b != .gt
          let kept := if given.has 'u' then (runsBy order [] sorted).map Prod.fst else sorted
          let text := unlines kept separator
          match given.value? 'o' with
          | none => call.done 0 text
          | some name =>
            match call.find name with
            | .file names _ => { call with files := storeText call.files names false text }.done 0 []
            | .free names => { call with files := storeText call.files names false text }.done 0 []
            | target => call.fail 2 (octets "open failed: " ++ shownName name ++ octets (": " ++ targetMessage target))
where
  /-- Runs of lines that are equal in an order, after runs that are complete. -/
  runsBy (order : Octets → Octets → Ordering) : (runs : List (Octets × Nat)) → List Octets → List (Octets × Nat)
    | runs, [] => runs.reverse
    | [], line :: rest => runsBy order [(line, 1)] rest
    | (first, count) :: runs, line :: rest =>
      if order first line == .eq then runsBy order ((first, count + 1) :: runs) rest
      else runsBy order ((line, 1) :: (first, count) :: runs) rest

/-! ## Two texts -/

/-- The lines of two ordered texts, each with the column it belongs to; at most `fuel` lines. -/
def mergeColumns : (fuel : Nat) → List Octets → List Octets → List (Nat × Octets)
  | 0, _, _ => []
  | _, [], second => second.map fun line => (2, line)
  | _, first, [] => first.map fun line => (1, line)
  | fuel + 1, a :: first, b :: second =>
    match compareOctets a b with
    | .lt => (1, a) :: mergeColumns fuel first (b :: second)
    | .gt => (2, b) :: mergeColumns fuel (a :: first) second
    | .eq => (3, a) :: mergeColumns fuel first second

/-- Whether lines are in order. -/
def areOrdered : List Octets → Bool
  | a :: b :: rest => compareOctets a b != .gt && areOrdered (b :: rest)
  | _ => true

/-- The lines of two ordered texts in columns: only in the first, only in the second, in both. -/
def comm : Call → Outcome := withSwitches [⟨'1', [], false⟩, ⟨'2', [], false⟩, ⟨'3', [], false⟩] 1 fun call given =>
  match given.operands with
  | [] => call.misused 1 (octets "missing operand")
  | [single] => call.misused 1 (octets "missing operand after " ++ quotedWord single)
  | _ :: _ :: extra :: _ => call.misused 1 (octets "extra operand " ++ quotedWord extra)
  | operands =>
    match call.sources operands with
    | [first, second] =>
      match first.contents, second.contents with
      | .error target, _ => ended call [unreadable call first.label target]
      | _, .error target => ended call [unreadable call second.label target]
      | .ok a, .ok b =>
        let (a, b) := (linesOf a, linesOf b)
        let shown (column : Nat) : Bool := !given.has (Char.ofNat ('0'.toNat + column))
        let tabs (column : Nat) := timesOf (((List.range column).filter fun i => 0 < i && shown i).length) '\t'
        let lines := (mergeColumns (a.length + b.length) a b).filterMap fun (column, line) =>
          if shown column then some (tabs column ++ line) else none
        let isPaired := (mergeColumns (a.length + b.length) a b).all fun (column, _) => column = 3
        let disordered := if isPaired then [] else [(1, a), (2, b)].filter fun (_, lines) => !areOrdered lines
        let complaints : List (Stream × Octets) := disordered.map fun (number, _) =>
          (.stderr, call.complaint (octets ("file " ++ toString number ++ " is not in sorted order")))
        ended (call.afterReading operands) ((.stdout, unlines lines) :: complaints ++
          if disordered.isEmpty then [] else [(.stderr, call.complaint (octets "input is not in sorted order"))])
    | _ => call.done 0 []

end Utterance.Host.Command
