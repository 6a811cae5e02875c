import Utterance.Host.Switches

/-!
# Commands that pass texts on

Whole texts, their first or last lines, their lines backwards or with numbers, and how much there is of them.
-/

namespace Utterance.Host.Command
set_option autoImplicit false

/-- A complaint about a text that could not be read. -/
def unreadable (call : Call) (label : Octets) (target : Target) : Stream × Octets :=
  (.stderr, call.complaint (shownName label ++ octets (": " ++ targetMessage target)))

/-- The end of a command that has written step by step; its status is 1 if it had to complain. -/
def ended (call : Call) (writes : List (Stream × Octets)) : Outcome :=
  { status := if writes.any fun write => write.1 == .stderr then 1 else 0
    writes, files := call.files, input := call.input }

/-- What is written for each text, and a complaint for each that cannot be read. -/
def eachSource (call : Call) (operands : List Octets) (work : Octets → Octets) : Outcome :=
  let writes := (call.sources operands).map fun source =>
    match source.contents with
    | .ok text => (.stdout, work text)
    | .error target => unreadable call source.label target
  ended (call.afterReading operands) writes

/-- The last octets of a size, or all but the first ones. -/
def lastOf {α : Type} (count : Nat) (list : List α) : List α :=
  list.drop (list.length - count)

/-! ## Whole texts -/

/-- How `cat` shows a text. -/
structure CatStyle where
  number : Bool := false
  numberFilled : Bool := false
  squeeze : Bool := false
  ends : Bool := false
  tabs : Bool := false
  visible : Bool := false
  deriving Inhabited

/-- Where `cat` is: the lines it has numbered, whether it is at the start of a line, and the blank lines before it. -/
structure CatPlace where
  numbered : Nat := 0
  lineStart : Bool := true
  blanks : Nat := 0
  deriving Inhabited

/-- A character without its highest bit, made visible. -/
def visibleLow (c : Char) : Octets :=
  if c < ' ' then ['^', Char.ofNat (c.toNat + 64)] else if c = '\x7f' then ['^', '?'] else [c]

/-- A character made visible. -/
def visible (style : CatStyle) (c : Char) : Octets :=
  if c = '\t' then (if style.tabs then ['^', 'I'] else [c])
  else if !style.visible then [c]
  else if '\x80' ≤ c then 'M' :: '-' :: visibleLow (Char.ofNat (c.toNat - 128))
  else visibleLow c

/-- A line number in front of a line. -/
def lineNumber (n : Nat) : Octets :=
  padLeft 6 (digitsOf 10 n) ++ ['\t']

/-- A text in a style, after what was written before, last first, and the place after it. -/
def showFrom (style : CatStyle) : CatPlace → (written : Octets) → Octets → Octets × CatPlace
  | place, written, [] => (written.reverse, place)
  | place, written, '\n' :: rest =>
    if place.lineStart && style.squeeze && 0 < place.blanks then
      showFrom style { place with blanks := place.blanks + 1 } written rest
    else
      let numbers := place.lineStart && style.number && !style.numberFilled
      let numbered := if numbers then place.numbered + 1 else place.numbered
      let line := (if numbers then lineNumber numbered else []) ++ (if style.ends then ['$'] else []) ++ ['\n']
      showFrom style ⟨numbered, true, if place.lineStart then place.blanks + 1 else 0⟩ (line.reverse ++ written) rest
  | place, written, c :: rest =>
    let numbers := place.lineStart && (style.number || style.numberFilled)
    let numbered := if numbers then place.numbered + 1 else place.numbered
    let text := (if numbers then lineNumber numbered else []) ++ visible style c
    showFrom style ⟨numbered, false, 0⟩ (text.reverse ++ written) rest

/-- The texts in a style, one after the other. -/
def showEach (call : Call) (style : CatStyle) : CatPlace → List Source → List (Stream × Octets)
  | _, [] => []
  | place, source :: rest =>
    match source.contents with
    | .error target => unreadable call source.label target :: showEach call style place rest
    | .ok text =>
      let (shown, place) := showFrom style place [] text
      (.stdout, shown) :: showEach call style place rest

/-- The switches of `cat`. -/
def catSwitches : List Switch :=
  [⟨'A', ["show-all"], false⟩, ⟨'b', ["number-nonblank"], false⟩, ⟨'e', [], false⟩, ⟨'E', ["show-ends"], false⟩,
   ⟨'n', ["number"], false⟩, ⟨'s', ["squeeze-blank"], false⟩, ⟨'t', [], false⟩, ⟨'T', ["show-tabs"], false⟩,
   ⟨'u', [], false⟩, ⟨'v', ["show-nonprinting"], false⟩]

/-- Texts one after the other. -/
def cat : Call → Outcome := withSwitches catSwitches 1 fun call given =>
  let has := given.has
  let style : CatStyle :=
    { number := has 'n' || has 'b', numberFilled := has 'b', squeeze := has 's', ends := has 'A' || has 'e' || has 'E'
      tabs := has 'A' || has 't' || has 'T', visible := has 'A' || has 'e' || has 't' || has 'v' }
  ended (call.afterReading given.operands) (showEach call style {} (call.sources given.operands))

/-- The lines of a text with their newlines. -/
def fullLines (text : Octets) : List Octets :=
  match (splitOn '\n' text).reverse with
  | [] => []
  | last :: before => (before.reverse.map (· ++ ['\n'])) ++ (if last.isEmpty then [] else [last])

/-- The lines of texts backwards. -/
def tac : Call → Outcome := withSwitches [] 1 fun call given =>
  let writes := (call.sources given.operands).map fun source =>
    match source.contents with
    | .ok text => (Stream.stdout, (fullLines text).reverse.flatten)
    | .error (.directory _) =>
      (.stderr, call.complaint (shownName source.label ++ octets ": read error: Invalid argument"))
    | .error target =>
      (.stderr, call.complaint
        (octets "failed to open " ++ quotedName source.label ++ octets (" for reading: " ++ targetMessage target)))
  ended (call.afterReading given.operands) writes

/-- The characters of each line backwards. -/
def rev : Call → Outcome := withSwitches [] 1 fun call given =>
  let backwards (line : Octets) := octets (String.ofList (toText line).toList.reverse)
  let writes := (call.sources given.operands).map fun source =>
    match source.contents with
    | .ok text =>
      let lines := (splitOn '\n' text).map backwards
      (Stream.stdout, joinWith ['\n'] lines)
    | .error target =>
      (.stderr, call.complaint (octets "cannot open " ++ source.label ++ octets (": " ++ targetMessage target)))
  ended (call.afterReading given.operands) writes

/-! ## First and last lines -/

/-- The factors that letters after a number stand for. -/
def sizeFactors : List (String × Nat) :=
  [("", 1), ("b", 512), ("kB", 1000), ("K", 1024), ("k", 1024), ("KiB", 1024), ("KB", 1000), ("MB", 1000000),
   ("M", 1048576), ("MiB", 1048576), ("G", 1073741824)]

/-- A number with a factor. -/
def size? (text : Octets) : Option Nat :=
  let digits := text.takeWhile (isDigitOf 10)
  if digits.isEmpty then none
  else (sizeFactors.lookup (String.ofList (text.drop digits.length))).map (numberOf 10 digits * ·)

/-- Which part of a text is wanted: `count` lines or octets, counted from the other end if `opposite`. -/
structure Portion where
  octets : Bool := false
  count : Nat := 10
  opposite : Bool := false
  deriving Inhabited

/-- The first part of a text. -/
def Portion.first (portion : Portion) (text : Octets) : Octets :=
  let takes {α : Type} (list : List α) :=
    list.take (if portion.opposite then list.length - portion.count else portion.count)
  if portion.octets then takes text else (takes (fullLines text)).flatten

/-- The last part of a text. -/
def Portion.last (portion : Portion) (text : Octets) : Octets :=
  let takes {α : Type} (list : List α) :=
    if portion.opposite then list.drop (portion.count - 1) else lastOf portion.count list
  if portion.octets then takes text else (takes (fullLines text)).flatten

/-- The portion that a switch asks for; `sign` is the character that turns it around. -/
def portion? (sign : Char) (octets : Bool) (text : Octets) : Option Portion :=
  match text with
  | '-' :: rest => (size? rest).map fun count => ⟨octets, count, sign = '-'⟩
  | '+' :: rest => (size? rest).map fun count => ⟨octets, count, sign = '+'⟩
  | _ => (size? text).map fun count => ⟨octets, count, false⟩

/-- The line above one of several texts. -/
def heading (first : Bool) (label : Octets) : Octets :=
  let name := if label = ['-'] then octets "standard input" else label
  (if first then [] else ['\n']) ++ octets "==> " ++ name ++ octets " <==\n"

/-- Part of each text, under headings if there are several. -/
def portions (call : Call) (headings : Bool) (part : Octets → Octets) : (first : Bool) → List Source →
    List (Stream × Octets)
  | _, [] => []
  | first, source :: rest =>
    let above := if headings then heading first source.label else []
    match source.contents with
    | .ok text => (.stdout, above ++ part text) :: portions call headings part false rest
    | .error (.directory _) =>
      (.stdout, above) ::
        (.stderr, call.complaint (octets "error reading " ++ quotedName source.label ++ octets ": Is a directory")) ::
        portions call headings part false rest
    | .error target =>
      (.stderr, call.complaint
        (octets "cannot open " ++ quotedName source.label ++ octets (" for reading: " ++ targetMessage target))) ::
        portions call headings part first rest

/-- The switches of `head` and `tail`. -/
def portionSwitches : List Switch :=
  [⟨'n', ["lines"], true⟩, ⟨'c', ["bytes"], true⟩, ⟨'q', ["quiet", "silent"], false⟩, ⟨'v', ["verbose"], false⟩,
   ⟨'f', ["follow"], false⟩]

/-- How much is read of an input at a time. -/
def blockSize : Nat := 8192

/-- What is left of the input when a first part of it was read: all after it if it can be given back, else all after the
last block that was read. -/
def leftAfter (call : Call) (used : Nat) : Octets :=
  call.input.drop (if call.rereadable then used else (used + blockSize - 1) / blockSize * blockSize)

/-- Part of each text that operands name. `leaves` says what is left of the input. -/
def portionCommand (sign : Char) (part : Portion → Octets → Octets) (leaves : Call → Portion → Octets) (call : Call)
    (given : Given) : Outcome :=
  let wanted := given.switches.foldl (fun (found : Except Octets Portion) switch =>
    match found with
    | .error text => .error text
    | .ok portion =>
      if switch.letter = 'n' || switch.letter = 'c' then
        let octetsWanted := switch.letter = 'c'
        match portion? sign octetsWanted switch.value with
        | some portion => .ok portion
        | none =>
          .error (octets ("invalid number of " ++ (if octetsWanted then "bytes" else "lines") ++ ": ") ++
            quotedWord (switch.value.dropWhile fun c => c = '-' && sign = '-'))
      else .ok portion) (.ok {})
  match wanted with
  | .error text => call.fail 1 text
  | .ok portion =>
    let headings := match given.last? ['q', 'v'] with
      | some 'q' => false
      | some _ => true
      | none => 1 < given.operands.length
    let outcome := ended (call.afterReading given.operands)
      (portions call headings (part portion) true (call.sources given.operands))
    if outcome.input.length = call.input.length then outcome else { outcome with input := leaves call portion }

/-- Arguments with a leading number turned into a switch. -/
def numberFirst (plus : Bool) : List Octets → List Octets
  | ('-' :: c :: rest) :: more =>
    if isDigitOf 10 c && (c :: rest).all (isDigitOf 10) then ['-', 'n'] :: (c :: rest) :: more
    else ('-' :: c :: rest) :: more
  | ('+' :: c :: rest) :: more =>
    if plus && isDigitOf 10 c then ['-', 'n'] :: ('+' :: c :: rest) :: more else ('+' :: c :: rest) :: more
  | arguments => arguments

/-- The first part of each text. Of the input no more is read than is wanted, if the input can be read again. -/
def head (call : Call) : Outcome :=
  let leaves (call : Call) (portion : Portion) : Octets :=
    if portion.opposite then [] else leftAfter call (portion.first call.input).length
  withSwitches portionSwitches 1 (portionCommand '-' Portion.first leaves)
    { call with arguments := numberFirst false call.arguments }

/-- The last part of each text. -/
def tail (call : Call) : Outcome :=
  withSwitches portionSwitches 1 (portionCommand '+' Portion.last fun _ _ => [])
    { call with arguments := numberFirst true call.arguments }

/-! ## Counts -/

/-- How much there is of a text. -/
structure Amount where
  lines : Nat := 0
  words : Nat := 0
  characters : Nat := 0
  octets : Nat := 0
  longest : Nat := 0
  deriving Inhabited

/-- Two amounts together. -/
def Amount.add (a b : Amount) : Amount :=
  ⟨a.lines + b.lines, a.words + b.words, a.characters + b.characters, a.octets + b.octets, max a.longest b.longest⟩

/-- The number of words, after a character that was a space or not. -/
def countWords : (inWord : Bool) → (count : Nat) → Octets → Nat
  | _, count, [] => count
  | inWord, count, c :: rest =>
    if isSpace c then countWords false count rest
    else countWords true (if inWord then count else count + 1) rest

/-- The ranges of characters that take two columns. -/
def wideRanges : List (Nat × Nat) :=
  [(0x1100, 0x115f), (0x2e80, 0x303e), (0x3041, 0xa4cf), (0xa960, 0xa97c), (0xac00, 0xd7a3), (0xf900, 0xfaff),
   (0xfe30, 0xfe6f), (0xff01, 0xff60), (0xffe0, 0xffe6), (0x1f300, 0x1f64f), (0x1f900, 0x1f9ff), (0x20000, 0x3fffd)]

/-- The columns that a character takes. -/
def characterWidth (c : Char) : Nat :=
  let n := c.toNat
  if n < 32 || (127 ≤ n && n < 160) || (0x300 ≤ n && n ≤ 0x36f) then 0
  else if wideRanges.any fun (first, last) => first ≤ n && n ≤ last then 2
  else 1

/-- The width of a line in columns. -/
def lineWidth (line : Octets) : Nat :=
  (toText line).toList.foldl (fun width c => if c = '\t' then (width / 8 + 1) * 8 else width + characterWidth c) 0

/-- How much there is of a text. -/
def amountOf (text : Octets) : Amount where
  lines := text.countP (· == '\n')
  words := countWords false 0 text
  characters := (toText text).length
  octets := text.length
  longest := ((splitOn '\n' text).map lineWidth).foldl max 0

/-- The switches of `wc`. -/
def wcSwitches : List Switch :=
  [⟨'l', ["lines"], false⟩, ⟨'w', ["words"], false⟩, ⟨'m', ["chars"], false⟩, ⟨'c', ["bytes"], false⟩,
   ⟨'L', ["max-line-length"], false⟩]

/-- The columns that are wanted of an amount. -/
def Amount.columns (amount : Amount) (given : Given) : List Nat :=
  if given.switches.isEmpty then [amount.lines, amount.words, amount.octets]
  else
    (if given.has 'l' then [amount.lines] else []) ++ (if given.has 'w' then [amount.words] else []) ++
      (if given.has 'm' then [amount.characters] else []) ++ (if given.has 'c' then [amount.octets] else []) ++
      (if given.has 'L' then [amount.longest] else [])

/-- A line of columns with a name after them. -/
def amountLine (width : Nat) (columns : List Nat) (label : Octets) : Octets :=
  joinWith [' '] (columns.map fun n => padLeft width (digitsOf 10 n)) ++
    (if label.isEmpty then [] else ' ' :: label) ++ ['\n']

/-- The width of the columns: that of the number of all octets, or seven if some text is no file. -/
def amountWidth (given : Given) (sources : List Source) : Nat :=
  if sources.length = 1 && (({} : Amount).columns given).length = 1 then 1
  else
    match sources with
    | [] => 1
    | first :: _ =>
      let readable (source : Source) : Bool := match source.contents with
        | .ok _ => true
        | .error (.directory _) => true
        | .error _ => false
      let isFile (source : Source) : Bool := source.label != ['-'] && match source.contents with
        | .ok _ => true
        | .error _ => false
      if !readable first then 1
      else
        let total := sources.foldl (fun total source =>
          total + if isFile source then (source.contents.toOption.getD []).length else 0) 0
        let least := if sources.any (fun source => readable source && !isFile source) then 7 else 1
        max least (digitsOf 10 total).length

/-- The amounts of texts, and the sum if there are several. -/
def wc : Call → Outcome := withSwitches wcSwitches 1 fun call given =>
  let sources := call.sources given.operands
  let width := amountWidth given sources
  let labelOf (label : Octets) := if given.operands.isEmpty then [] else label
  let amounts := sources.map fun source => match source.contents with
    | .ok text => (source, amountOf text)
    | .error _ => (source, {})
  let line (amount : Amount) (label : Octets) := amountLine width (amount.columns given) label
  let writes := amounts.flatMap fun (source, amount) => match source.contents with
    | .ok _ => [(Stream.stdout, line amount (labelOf source.label))]
    | .error (.directory names) =>
      [unreadable call source.label (.directory names), (.stdout, line amount source.label)]
    | .error target => [unreadable call source.label target]
  let total := amounts.foldl (fun total (_, amount) => total.add amount) {}
  let last := if 1 < sources.length then [(Stream.stdout, line total (octets "total"))] else []
  ended (call.afterReading given.operands) (writes ++ last)

/-! ## Line numbers and copies -/

/-- The switches of `nl`. -/
def nlSwitches : List Switch :=
  [⟨'b', ["body-numbering"], true⟩, ⟨'w', ["number-width"], true⟩, ⟨'s', ["number-separator"], true⟩,
   ⟨'v', ["starting-line-number"], true⟩, ⟨'i', ["line-increment"], true⟩, ⟨'n', ["number-format"], true⟩]

/-- Lines with numbers in front. -/
def nl : Call → Outcome := withSwitches nlSwitches 1 fun call given =>
  let number (letter : Char) (fallback : Nat) := ((given.value? letter).bind natural?).getD fallback
  let width := number 'w' 6
  let separator := (given.value? 's').getD ['\t']
  let all := given.value? 'b' == some ['a']
  let written (n : Nat) := match given.value? 'n' with
    | some ['l', 'n'] => padRight width (digitsOf 10 n)
    | some ['r', 'z'] => padLeft width (digitsOf 10 n) '0'
    | _ => padLeft width (digitsOf 10 n)
  let sources := call.sources given.operands
  let lines := sources.flatMap fun source => linesOf (source.contents.toOption.getD [])
  let numbered := lines.foldl (fun (state : Nat × List Octets) line =>
    if all || !line.isEmpty then (state.1 + number 'i' 1, (written state.1 ++ separator ++ line) :: state.2)
    else (state.1, timesOf (width + separator.length) ' ' :: state.2)) (number 'v' 1, [])
  let complaints := sources.filterMap fun source => match source.contents with
    | .ok _ => none
    | .error target => some (unreadable call source.label target)
  ended (call.afterReading given.operands) (complaints ++ [(.stdout, unlines numbered.2.reverse)])

/-- Writes a text to a file, after what is there or in its place. -/
def storeText (files : FileStore) (names : List String) (append : Bool) (text : Octets) : FileStore :=
  let before := if append then (files.files.lookup names).getD [] else []
  files.put names (before ++ toBytes text)

/-- The input, written to files and passed on. -/
def tee : Call → Outcome := withSwitches [⟨'a', ["append"], false⟩, ⟨'i', [], false⟩] 1 fun call given =>
  let step (state : FileStore × List (Stream × Octets)) (name : Octets) :=
    match { call with files := state.1 }.find name with
    | .file ["dev", "null"] _ => state
    | .file names _ => (storeText state.1 names (given.has 'a') call.input, state.2)
    | .free names => (storeText state.1 names (given.has 'a') call.input, state.2)
    | target => (state.1, unreadable call name target :: state.2)
  let (files, complaints) := given.operands.foldl step (call.files, [])
  ended { call with files, input := [] } (complaints.reverse ++ [(.stdout, call.input)])

end Utterance.Host.Command
