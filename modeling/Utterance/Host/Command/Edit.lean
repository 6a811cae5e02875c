import Utterance.Host.Command.Search

/-!
# Editing lines

A script of editing commands is applied to every line of a text. A command is applied to the lines that its addresses
select; between two addresses it is applied from the one to the other.
-/

namespace Utterance.Host.Command
set_option autoImplicit false

/-! ## Scripts -/

/-- A part of a replacement: a character, or what a group fitted, the whole fit being group zero. -/
inductive ReplacementPart where
  | letter (c : Char)
  | group (index : Nat)
  deriving DecidableEq, Repr, Inhabited

/-- An expression with its own regard to case; none stands for the last one that was used. -/
structure EditPattern where
  regex : Option Regex
  anyCase : Bool := false
  deriving DecidableEq, Repr, Inhabited

/-- Which lines are meant. -/
inductive Address where
  | line (n : Nat)
  | last
  | fits (pattern : EditPattern)
  | every (first step : Nat)
  /-- so many lines after the other address -/
  | further (count : Nat)
  deriving DecidableEq, Repr, Inhabited

/-- An editing command. -/
inductive EditAction where
  | substitute (pattern : EditPattern) (replacement : List ReplacementPart) (all : Bool) (which : Nat) (prints : Bool)
  | exchangeLetters (pairs : List (Char × Char))
  | delete
  | deleteFirst
  | print
  | printFirst
  | number
  | quit (prints : Bool) (status : Nat)
  | append (text : List Char)
  | insert (text : List Char)
  | change (text : List Char)
  | next
  | join
  | keep (adds : Bool)
  | fetch (adds : Bool)
  | exchange
  | jump (label : List Char)
  /-- a jump if something was substituted, or if nothing was -/
  | jumpIf (substituted : Bool) (label : List Char)
  | label (name : List Char)
  | opening
  | closing
  deriving DecidableEq, Repr, Inhabited

/-- A command with its addresses. -/
structure EditCommand where
  first : Option Address := none
  second : Option Address := none
  negated : Bool := false
  action : EditAction
  deriving DecidableEq, Repr, Inhabited

/-- A text up to a delimiter that no backslash stands before. Before the delimiter itself a backslash is dropped, and an
`n` after one is a newline unless it is kept. -/
def delimited (delimiter : Char) (inBrackets : Bool) : (bracket : Bool) → (text : List Char) → List Char →
    Option (List Char × List Char)
  | _, _, [] => none
  | bracket, text, '\\' :: c :: rest =>
    if c = delimiter then delimited delimiter inBrackets bracket (c :: text) rest
    else delimited delimiter inBrackets bracket (c :: '\\' :: text) rest
  | bracket, text, c :: rest =>
    if c = delimiter && !bracket then some (text.reverse, rest)
    else if inBrackets && c = '[' && !bracket then
      match rest with
      | '^' :: ']' :: rest => delimited delimiter inBrackets true (']' :: '^' :: c :: text) rest
      | ']' :: rest => delimited delimiter inBrackets true (']' :: c :: text) rest
      | rest => delimited delimiter inBrackets true (c :: text) rest
    else delimited delimiter inBrackets (bracket && c != ']') (c :: text) rest

/-- The parts of a replacement. -/
def replacementParts : List Char → List ReplacementPart
  | [] => []
  | '\\' :: c :: rest =>
    (if c.isDigit then .group (c.toNat - '0'.toNat)
     else .letter (if c = 'n' then '\n' else if c = 't' then '\t' else c)) :: replacementParts rest
  | '&' :: rest => .group 0 :: replacementParts rest
  | c :: rest => .letter c :: replacementParts rest

/-- The pattern that a text is. -/
def editPattern (dialect : Regex.Dialect) (anyCase : Bool) (text : List Char) : Except String EditPattern :=
  if text.isEmpty then .ok ⟨none, anyCase⟩
  else (Regex.ofText dialect text).map fun regex => ⟨some regex, anyCase⟩

/-- Digits at the start of a text as a number. -/
def countAtStart (text : List Char) : Nat × List Char :=
  (numberOf 10 (text.takeWhile Char.isDigit), text.dropWhile Char.isDigit)

/-- An address at the start of a text, if there is one. -/
def readAddress (dialect : Regex.Dialect) (second : Bool) (text : List Char) :
    Except String (Option Address × List Char) :=
  let expression (delimiter : Char) (rest : List Char) : Except String (Option Address × List Char) :=
    match delimited delimiter true false [] rest with
    | none => .error "unterminated address regex"
    | some (text, rest) => do
      let (anyCase, rest) := match rest with
        | 'I' :: rest => (true, rest)
        | rest => (false, rest)
      return (some (.fits (← editPattern dialect anyCase text)), rest)
  match text with
  | '$' :: rest => .ok (some .last, rest)
  | '/' :: rest => expression '/' rest
  | '\\' :: delimiter :: rest => expression delimiter rest
  | '+' :: rest =>
    if second then
      let (n, rest) := countAtStart rest
      .ok (some (.further n), rest)
    else .ok (none, text)
  | c :: _ =>
    if c.isDigit then
      match countAtStart text with
      | (first, '~' :: rest) =>
        let (step, rest) := countAtStart rest
        .ok (some (.every first step), rest)
      | (n, rest) => .ok (some (.line n), rest)
    else .ok (none, text)
  | [] => .ok (none, [])

/-- Whether a character is a blank. -/
def isBlank (c : Char) : Bool :=
  c = ' ' || c = '\t'

/-- What is wrong with a script, and what is left of it there. -/
structure EditFault where
  reason : String
  left : List Char := []
  deriving DecidableEq, Repr, Inhabited

/-- The end of a command: blanks, then a separator, a brace, a comment or nothing. -/
def commandEnd (text : List Char) (reason : String := "extra characters after command") :
    Except EditFault (List Char) :=
  match text.dropWhile isBlank with
  | [] => .ok []
  | ';' :: rest => .ok rest
  | '\n' :: rest => .ok rest
  | '\x7d' :: rest => .ok ('\x7d' :: rest)
  | '#' :: rest => .ok ('#' :: rest)
  | _ :: rest => .error ⟨reason, rest⟩

/-- The flags of a substitution: for all fits, for which one, printing, and without regard to case. -/
structure SubstituteFlags where
  all : Bool := false
  which : Nat := 1
  prints : Bool := false
  anyCase : Bool := false
  deriving Inhabited

/-- Reads the flags of a substitution, at most `fuel`. -/
def readFlags : (fuel : Nat) → SubstituteFlags → List Char → SubstituteFlags × List Char
  | 0, flags, rest => (flags, rest)
  | fuel + 1, flags, c :: rest =>
    if c = 'g' then readFlags fuel { flags with all := true } rest
    else if c = 'p' then readFlags fuel { flags with prints := true } rest
    else if c = 'i' || c = 'I' then readFlags fuel { flags with anyCase := true } rest
    else if c.isDigit then
      let (n, rest) := countAtStart (c :: rest)
      readFlags fuel { flags with which := n } rest
    else (flags, c :: rest)
  | _, flags, [] => (flags, [])

/-- A text without backslashes before its characters. -/
def withoutBackslashes : List Char → List Char
  | '\\' :: c :: rest => c :: withoutBackslashes rest
  | c :: rest => c :: withoutBackslashes rest
  | [] => []

/-- A text to be put in, up to the end of its line. A backslash keeps a newline in it. -/
def readInserted : (text : List Char) → List Char → List Char × List Char
  | text, [] => (text.reverse, [])
  | text, '\\' :: c :: rest => readInserted (c :: text) rest
  | text, '\n' :: rest => (text.reverse, rest)
  | text, c :: rest => readInserted (c :: text) rest

/-- The text of a command that puts one in. -/
def insertedText (rest : List Char) : Except EditFault (List Char × List Char) :=
  match rest.dropWhile isBlank with
  | [] => .error ⟨"expected \\ after \x60a', \x60c' or \x60i'", []⟩
  | '\\' :: '\n' :: rest =>
    let (text, rest) := readInserted [] rest
    .ok (text ++ ['\n'], rest)
  | '\\' :: rest =>
    let (text, rest) := readInserted [] (rest.dropWhile isBlank)
    .ok (text ++ ['\n'], rest)
  | rest =>
    let (text, rest) := readInserted [] rest
    .ok (text ++ ['\n'], rest)

/-- The action at the start of a text. -/
def readAction (dialect : Regex.Dialect) (text : List Char) : Except EditFault (EditAction × List Char) :=
  let simple (action : EditAction) (rest : List Char) : Except EditFault (EditAction × List Char) :=
    (commandEnd rest).map fun rest => (action, rest)
  let labelled (make : List Char → EditAction) (rest : List Char) : Except EditFault (EditAction × List Char) :=
    let rest := rest.dropWhile isBlank
    let name := rest.takeWhile fun c => c != ';' && c != '\n' && !isBlank c && c != '\x7d'
    (commandEnd (rest.drop name.length)).map fun rest => (make name, rest)
  match text with
  | [] => .error ⟨"missing command", []⟩
  | c :: rest =>
    match c with
    | 'd' => simple .delete rest
    | 'D' => simple .deleteFirst rest
    | 'p' => simple .print rest
    | 'P' => simple .printFirst rest
    | '=' => simple .number rest
    | 'n' => simple .next rest
    | 'N' => simple .join rest
    | 'h' => simple (.keep false) rest
    | 'H' => simple (.keep true) rest
    | 'g' => simple (.fetch false) rest
    | 'G' => simple (.fetch true) rest
    | 'x' => simple .exchange rest
    | '\x7b' => .ok (.opening, rest)
    | '\x7d' => simple .closing rest
    | 'q' =>
      let (status, rest) := countAtStart (rest.dropWhile isBlank)
      simple (.quit true status) rest
    | 'Q' =>
      let (status, rest) := countAtStart (rest.dropWhile isBlank)
      simple (.quit false status) rest
    | 'a' => (insertedText rest).map fun (text, rest) => (.append text, rest)
    | 'i' => (insertedText rest).map fun (text, rest) => (.insert text, rest)
    | 'c' => (insertedText rest).map fun (text, rest) => (.change text, rest)
    | 'b' => labelled .jump rest
    | 't' => labelled (.jumpIf true) rest
    | 'T' => labelled (.jumpIf false) rest
    | ':' => labelled .label rest
    | 's' =>
      match rest with
      | delimiter :: rest =>
        match delimited delimiter true false [] rest with
        | none => .error ⟨"unterminated \x60s' command", []⟩
        | some (pattern, rest) =>
          match delimited delimiter false false [] rest with
          | none => .error ⟨"unterminated \x60s' command", []⟩
          | some (replacement, rest) => do
            let (flags, rest) := readFlags (rest.length + 1) {} rest
            let pattern ← (editPattern dialect flags.anyCase pattern).mapError fun reason => ⟨reason, rest⟩
            let rest ← commandEnd rest "unknown option to \x60s'"
            return (.substitute pattern (replacementParts replacement) flags.all flags.which flags.prints, rest)
      | [] => .error ⟨"unterminated \x60s' command", []⟩
    | 'y' =>
      match rest with
      | delimiter :: rest =>
        match delimited delimiter false false [] rest with
        | none => .error ⟨"unterminated \x60y' command", []⟩
        | some (sources, rest) =>
          match delimited delimiter false false [] rest with
          | none => .error ⟨"unterminated \x60y' command", []⟩
          | some (targets, rest) =>
            let (sources, targets) := (withoutBackslashes sources, withoutBackslashes targets)
            if sources.length = targets.length then simple (.exchangeLetters (sources.zip targets)) rest
            else .error ⟨"strings for \x60y' command are different lengths", rest⟩
      | [] => .error ⟨"unterminated \x60y' command", []⟩
    | c => .error ⟨"unknown command: \x60" ++ String.ofList [c] ++ "'", rest⟩

/-- The commands of a script, at most `fuel`; or what is wrong and how much is left there. -/
def readCommands (dialect : Regex.Dialect) : (fuel : Nat) → (depth : Nat) → List Char →
    Except (String × Option Nat) (List EditCommand)
  | 0, _, _ => .ok []
  | fuel + 1, depth, text =>
    match text.dropWhile fun c => isSpace c || c = ';' with
    | [] => if depth = 0 then .ok [] else .error ("unmatched \x60\x7b'", none)
    | '#' :: rest => readCommands dialect fuel depth (rest.dropWhile (· != '\n'))
    | text =>
      let located {α : Type} (left : List Char) (result : Except String α) : Except (String × Option Nat) α :=
        result.mapError fun reason => (reason, some left.length)
      do
        let (first, rest) ← located [] (readAddress dialect false text)
        let (second, rest) ← match first, rest.dropWhile isBlank with
          | some _, ',' :: rest => located rest (readAddress dialect true (rest.dropWhile isBlank))
          | _, rest => pure (none, rest)
        let rest := rest.dropWhile isBlank
        let (negated, rest) := match rest with
          | '!' :: rest => (true, rest.dropWhile fun c => isBlank c || c = '!')
          | rest => (false, rest)
        let (action, rest) ← (readAction dialect rest).mapError fun fault => (fault.reason, some fault.left.length)
        let depth ← match action with
          | .opening => pure (depth + 1)
          | .closing => if depth = 0 then throw ("unexpected \x60\x7d'", some rest.length) else pure (depth - 1)
          | _ => pure depth
        return ⟨first, second, negated, action⟩ :: (← readCommands dialect fuel depth rest)

/-! ## Lines -/

/-- A line, and whether a newline ends it. -/
structure EditLine where
  text : List Char
  ended : Bool := true
  deriving DecidableEq, Repr, Inhabited

/-- An editor at work. -/
structure Editor where
  rest : List EditLine
  number : Nat := 0
  space : List Char := []
  ended : Bool := true
  held : List Char := []
  /-- what was written, last first -/
  output : List (List Char) := []
  /-- what is written after the line -/
  appended : List (List Char) := []
  /-- the commands that are between their addresses, each with the line where it stops if that is known -/
  active : List (Nat × Option Nat) := []
  substituted : Bool := false
  lastRegex : Option Regex := none
  status : Option Nat := none
  deriving Inhabited

namespace Editor

/-- Writes a text. A line before it that was not ended is ended now. -/
def put (editor : Editor) (text : List Char) : Editor :=
  let unfinished := match editor.output with
    | last :: _ => !last.isEmpty && last.getLast? != some '\n'
    | [] => false
  { editor with output := (if unfinished then '\n' :: text else text) :: editor.output }

/-- Writes a line. The last one is ended only if it was. -/
def putLine (editor : Editor) (text : List Char) : Editor :=
  editor.put (if editor.ended || !editor.rest.isEmpty then text ++ ['\n'] else text)

/-- Writes what comes after the line. -/
def flush (editor : Editor) : Editor :=
  editor.appended.reverse.foldl put { editor with appended := [] }

/-- The next line, if there is one. -/
def advance (editor : Editor) : Option (EditLine × Editor) :=
  match editor.rest with
  | [] => none
  | line :: rest => some (line, { editor with rest, number := editor.number + 1, ended := line.ended })

/-- The expression of a pattern, which is then the last one that was used. -/
def regexOf (editor : Editor) (pattern : EditPattern) : Regex × Editor :=
  match pattern.regex <|> editor.lastRegex with
  | some regex => (regex, { editor with lastRegex := some regex })
  | none => (.member false [], editor)

/-- Whether an address means the line. -/
def isAt (editor : Editor) (address : Address) : Bool × Editor :=
  match address with
  | .line n => (editor.number = n, editor)
  | .last => (editor.rest.isEmpty, editor)
  | .fits pattern =>
    let (regex, editor) := editor.regexOf pattern
    ((regex.find? pattern.anyCase editor.space).isSome, editor)
  | .every first step =>
    (if step = 0 then editor.number = first else first ≤ editor.number && (editor.number - first) % step = 0, editor)
  | .further _ => (false, editor)

/-- Whether a command is applied to the line, its negation left aside. -/
def isSelected (editor : Editor) (index : Nat) (command : EditCommand) : Bool × Editor :=
  let closed (editor : Editor) : Editor :=
    { editor with active := editor.active.filter fun entry => entry.1 != index }
  match command.first, command.second with
  | none, _ => (true, editor)
  | some first, none => editor.isAt first
  | some first, some second =>
    let zero := first == .line 0 && editor.number = 1
    match editor.active.lookup index, zero with
    | some stop, _ =>
      match stop, second with
      | some n, _ => (editor.number ≤ n, if n ≤ editor.number then closed editor else editor)
      | none, second =>
        let (holds, editor) := editor.isAt second
        (true, if holds then closed editor else editor)
    | none, true =>
      let (holds, editor) := editor.isAt second
      (true, if holds then editor else { editor with active := (index, none) :: editor.active })
    | none, false =>
      let (holds, editor) := editor.isAt first
      if !holds then (false, editor)
      else
        let stop : Option Nat := match second with
          | .line n => some n
          | .further n => some (editor.number + n)
          | _ => none
        if stop.any (· ≤ editor.number) || (second == .last && editor.rest.isEmpty) then (true, editor)
        else (true, { editor with active := (index, stop) :: editor.active })

/-- A fit with its replacement. -/
def replaced (replacement : List ReplacementPart) (fit : Regex.Fit) : List Char :=
  replacement.flatMap fun
    | .letter c => [c]
    | .group 0 => fit.text
    | .group index => (fit.groups.lookup index).getD []

/-- Substitutes the fits that are meant. -/
def substitute (editor : Editor) (pattern : EditPattern) (replacement : List ReplacementPart) (all : Bool)
    (which : Nat) (prints : Bool) : Editor :=
  let (regex, editor) := editor.regexOf pattern
  let (fits, last) := regex.findAll pattern.anyCase (editor.space.length + 2) none 0 false editor.space
  if fits.length < which then editor
  else
    let pieces := fits.zipIdx.map fun (fit, i) =>
      fit.before ++ if which = i + 1 || (all && which ≤ i + 1) then replaced replacement fit else fit.text
    let editor := { editor with space := pieces.flatten ++ last, substituted := true }
    if prints then editor.putLine editor.space else editor

/-- How a script goes on: with a command, with the end of the line, or with the same line from the start. -/
inductive Flow where
  | goTo (index : Nat)
  | lineEnd (prints : Bool)
  | restart
  deriving DecidableEq, Inhabited

/-- Where the block that starts before some commands ends. -/
def blockEnd : (depth index : Nat) → List EditCommand → Nat
  | _, index, [] => index
  | depth, index, command :: rest =>
    match command.action with
    | .opening => blockEnd (depth + 1) (index + 1) rest
    | .closing => if depth = 0 then index + 1 else blockEnd (depth - 1) (index + 1) rest
    | _ => blockEnd depth (index + 1) rest

/-- Does what a command does. -/
def act (script : List EditCommand) (quiet : Bool) (index : Nat) (command : EditCommand) (editor : Editor) :
    Editor × Flow :=
  let onward (editor : Editor) : Editor × Flow := (editor, .goTo (index + 1))
  let jumpTo (name : List Char) (editor : Editor) : Editor × Flow :=
    if name.isEmpty then (editor, .lineEnd true)
    else
      match script.findIdx? fun command => command.action == .label name with
      | some target => (editor, .goTo target)
      | none => (editor, .lineEnd true)
  match command.action with
  | .substitute pattern replacement all which prints =>
    onward (editor.substitute pattern replacement all which prints)
  | .exchangeLetters pairs => onward { editor with space := editor.space.map fun c => (pairs.lookup c).getD c }
  | .delete => (editor, .lineEnd false)
  | .deleteFirst =>
    match editor.space.dropWhile (· != '\n') with
    | [] => (editor, .lineEnd false)
    | _ :: rest => ({ editor with space := rest }, .restart)
  | .print => onward (editor.putLine editor.space)
  | .printFirst => onward (editor.put (editor.space.takeWhile (· != '\n') ++ ['\n']))
  | .number => onward (editor.put ((toString editor.number).toList ++ ['\n']))
  | .quit prints status => ({ editor with status := some status }, .lineEnd prints)
  | .append text => onward { editor with appended := text :: editor.appended }
  | .insert text => onward (editor.put text)
  | .change text =>
    let inside := command.second.isSome && !command.negated && editor.active.any fun entry => entry.1 = index
    (if inside then editor else editor.put text, .lineEnd false)
  | .next =>
    let printed := if quiet then editor else editor.putLine editor.space
    match editor.rest with
    | [] => ({ editor with status := some 0 }, .lineEnd true)
    | _ =>
      match printed.flush.advance with
      | some (line, editor) => onward { editor with space := line.text }
      | none => (editor, .lineEnd true)
  | .join =>
    match editor.flush.advance with
    | some (line, editor) => onward { editor with space := editor.space ++ '\n' :: line.text }
    | none => ({ editor with status := some 0 }, .lineEnd true)
  | .keep adds => onward { editor with held := if adds then editor.held ++ '\n' :: editor.space else editor.space }
  | .fetch adds =>
    onward { editor with space := if adds then editor.space ++ '\n' :: editor.held else editor.held, ended := true }
  | .exchange => onward { editor with space := editor.held, held := editor.space }
  | .jump name => jumpTo name editor
  | .jumpIf substituted name =>
    let jumps := editor.substituted = substituted
    let editor := { editor with substituted := false }
    if jumps then jumpTo name editor else onward editor
  | .label _ => onward editor
  | .opening => onward editor
  | .closing => onward editor

/-- Runs a script on the line from some command on, at most `fuel` commands. -/
def runFrom (script : List EditCommand) (quiet : Bool) : (fuel index : Nat) → Editor → Editor × Flow
  | 0, _, editor => ({ editor with status := some 4 }, .lineEnd false)
  | fuel + 1, index, editor =>
    match script[index]? with
    | none => (editor, .lineEnd true)
    | some command =>
      let (selected, editor) := editor.isSelected index command
      if selected != command.negated then
        match act script quiet index command editor with
        | (editor, .goTo next) => runFrom script quiet fuel next editor
        | result => result
      else if command.action == .opening then
        runFrom script quiet fuel (blockEnd 0 (index + 1) (script.drop (index + 1))) editor
      else runFrom script quiet fuel (index + 1) editor

/-- Runs a script on all lines, at most `fuel` times. With `fresh` a new line is read first. -/
def runAll (script : List EditCommand) (quiet : Bool) : (fuel : Nat) → (fresh : Bool) → Editor → Editor
  | 0, _, editor => editor
  | fuel + 1, fresh, editor =>
    let started := if fresh then
        (editor.advance).map fun (line, editor) => { editor with space := line.text, substituted := false }
      else some editor
    match started with
    | none => editor
    | some editor =>
      let (editor, flow) := runFrom script quiet 100000 0 editor
      let finish (prints : Bool) (editor : Editor) : Editor :=
        (if prints && !quiet then editor.putLine editor.space else editor).flush
      match flow with
      | .restart => runAll script quiet fuel false editor.flush
      | .lineEnd prints =>
        let editor := finish prints editor
        if editor.status.isSome then editor else runAll script quiet fuel true editor
      | .goTo _ => editor

end Editor

/-! ## The command -/

/-- The lines of a text. -/
def editLines (text : Octets) : List EditLine :=
  let lines := (linesOf text).map fun line => ({ text := (toText line).toList } : EditLine)
  if text.isEmpty || text.getLast? = some '\n' then lines
  else lines.dropLast ++ (lines.getLast?.map fun line => { line with ended := false }).toList

/-- What an editor has written. -/
def editedText (editor : Editor) : Octets :=
  octets (String.ofList editor.output.reverse.flatten)

/-- The switches of `sed`. -/
def sedSwitches : List Switch :=
  [⟨'n', ["quiet", "silent"], false⟩, ⟨'e', ["expression"], true⟩, ⟨'f', ["file"], true⟩,
   ⟨'E', ["regexp-extended"], false⟩, ⟨'r', [], false⟩, ⟨'i', ["in-place"], false⟩,
   ⟨'u', ["unbuffered"], false⟩, ⟨'z', ["null-data"], false⟩]

/-- Edits each text by itself and puts it in the place of its file. -/
def editInPlace (script : List EditCommand) (quiet : Bool) (call : Call) (operands : List Octets) : Outcome :=
  let refused (state : FileStore × List (Stream × Octets)) (text : Octets) : FileStore × List (Stream × Octets) :=
    (state.1, state.2 ++ [(.stderr, call.complaint text)])
  let edit (state : FileStore × List (Stream × Octets)) (name : Octets) : FileStore × List (Stream × Octets) :=
    match ({ call with files := state.1 }).find name with
    | .file names bytes =>
      let lines := editLines (ofBytes bytes)
      let editor := Editor.runAll script quiet (100000 + lines.length) true { rest := lines }
      let left := editor.rest.flatMap fun line => line.text ++ if line.ended then ['\n'] else []
      (state.1.put names (toBytes (editedText editor ++ octets (String.ofList left))), state.2)
    | .directory _ => refused state (octets "couldn't edit " ++ name ++ octets ": not a regular file")
    | target => refused state (octets "can't read " ++ name ++ octets (": " ++ targetMessage target))
  let (files, writes) := operands.foldl edit (call.files, [])
  { status := if writes.isEmpty then 0 else 4, writes, files, input := call.input }

/-- Edits texts. -/
def sed (call : Call) : Outcome :=
  match readSwitches sedSwitches true call.arguments with
  | .error text => call.fail 1 text
  | .ok given =>
    let explicit := given.switches.filterMap fun switch =>
      if switch.letter = 'e' then some switch.value
      else if switch.letter = 'f' then match call.find switch.value with
        | .file _ bytes => some (ofBytes bytes)
        | _ => some []
      else none
    let (script, operands) := match explicit, given.operands with
      | [], script :: operands => (some script, operands)
      | [], [] => (none, [])
      | explicit, operands => (some (joinWith ['\n'] explicit), operands)
    match script with
    | none => call.done 1 (octets "Usage: sed [OPTION]... \x7bscript-only-if-no-other-script\x7d [input-file]...\n\n")
    | some script =>
      let text := (toText script).toList
      let dialect : Regex.Dialect := if given.has 'E' || given.has 'r' then .extended else .plain
      match readCommands dialect (text.length + 1) 0 text with
      | .error (reason, left) =>
        call.fail 1 (octets ("-e expression #1, char " ++
          toString ((left.map fun left => text.length - left).getD 0) ++ ": " ++ reason))
      | .ok commands =>
        let quiet := given.has 'n'
        if given.has 'i' then editInPlace commands quiet call operands
        else
          let sources := call.sources operands
          let complaint (text label : Octets) (target : Target) : Option (Stream × Octets) :=
            some (.stderr, call.complaint (text ++ label ++ octets (": " ++ targetMessage target)))
          let complaints := sources.filterMap fun source => match source.contents with
            | .ok _ => none
            | .error (.directory names) => complaint (octets "read error on ") source.label (.directory names)
            | .error target => complaint (octets "can't read ") source.label target
          let lines := sources.flatMap fun source => match source.contents with
            | .ok text => editLines text
            | .error _ => []
          let editor := Editor.runAll commands quiet (100000 + lines.length) true { rest := lines }
          let call := call.afterReading operands
          let unreadable := sources.any fun source => match source.contents with
            | .error (.directory _) => true
            | _ => false
          { status := editor.status.getD (if complaints.isEmpty then 0 else if unreadable then 4 else 2)
            writes := complaints ++ [(.stdout, editedText editor)], files := call.files, input := call.input }

end Utterance.Host.Command
