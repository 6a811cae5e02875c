import Utterance.Host.Shell.Script

/-!
# Reading scripts

A script is read line by line: a line is read to its end, with all commands that are open there, before any of it
runs. The body of a here-document is taken out of the text that follows its line as soon as its mark is read; its lines
are counted when that line ends.
-/

namespace Utterance.Host.Shell
set_option autoImplicit false

/-- A line that is no command. -/
structure SyntaxFault where
  line : Nat
  text : Octets
  deriving Inhabited

/-- A token of a script. -/
inductive Token where
  | word (pieces : Word)
  | redirect (descriptor : Option Nat) (operator : String)
  | operator (text : String)
  | newline
  | stop
  deriving Inhabited

/-- What is left to read, the number of its first line, how many lines were taken out after it, and a token that was
read too early. -/
structure Reader where
  rest : Octets
  line : Nat := 1
  hidden : Nat := 0
  /-- the words that other texts stand for where a command may start -/
  aliases : List (Octets × Octets) := []
  pushed : Option Token := none
  deriving Inhabited

/-- Reading, which may fail. -/
abbrev Reading := EStateM SyntaxFault Reader

/-- The words that are no words where a command may start. -/
def keywords : List String :=
  ["!", "case", "do", "done", "elif", "else", "esac", "fi", "for", "if", "in", "then", "until", "while", "\x7b", "\x7d"]

/-- The keyword that a token is. -/
def Token.keyword? : Token → Option String
  | .word pieces => (plainText? pieces).bind fun text =>
    if keywords.contains (String.ofList text) then some (String.ofList text) else none
  | _ => none

/-- What a token is called in complaints. Where keywords count, they are called by their names. -/
def Token.title (keyword : Bool) (token : Token) : String :=
  match token with
  | .word _ => match if keyword then token.keyword? else none with
    | some text => "\"" ++ text ++ "\""
    | none => "word"
  | .redirect _ _ => "redirection"
  | .operator text => "\"" ++ text ++ "\""
  | .newline => "newline"
  | .stop => "end of file"

/-- Whether a token ends a list of commands. -/
def Token.endsList (token : Token) : Bool :=
  match token with
  | .stop => true
  | .operator text => text = ")" || text = ";;"
  | _ => match token.keyword? with
    | some text => ["do", "done", "elif", "else", "esac", "fi", "then", "\x7d"].contains text
    | none => false

/-- Gives up at this line. -/
def refuse {α : Type} (text : String) : Reading α := do
  throw ⟨(← get).line, octets ("Syntax error: " ++ text)⟩

/-- Gives up because of a token that is not what it should be. -/
def unexpected {α : Type} (token : Token) (expected : String := "") (keyword : Bool := true) : Reading α :=
  refuse (token.title keyword ++ " unexpected" ++ if expected = "" then "" else " (expecting " ++ expected ++ ")")

/-! ## Characters -/

/-- A text after backslashes at the ends of lines, and how many there were. -/
def skipContinuations : (lines : Nat) → Octets → Octets × Nat
  | lines, '\\' :: '\n' :: rest => skipContinuations (lines + 1) rest
  | lines, rest => (rest, lines)

/-- The next character, which is left there. -/
def peekCharacter : Reading (Option Char) := modifyGet fun reader =>
  let (rest, lines) := skipContinuations 0 reader.rest
  (rest.head?, { reader with rest, line := reader.line + lines })

/-- Leaves out the next character. -/
def skipCharacter : Reading Unit := modify fun reader =>
  if reader.rest.head? = some '\n' then
    { reader with rest := reader.rest.tail, line := reader.line + 1 + reader.hidden, hidden := 0 }
  else { reader with rest := reader.rest.tail }

/-- The next character. -/
def nextCharacter : Reading (Option Char) := do
  let found ← peekCharacter
  skipCharacter
  return found

/-- Takes the next character if it is a given one. -/
def takeCharacter (c : Char) : Reading Bool := do
  if (← peekCharacter) = some c then
    skipCharacter
    return true
  else return false

/-- The characters from here on that satisfy a test, at most as many as `fuel`. -/
def takeCharacters (test : Char → Bool) : (fuel : Nat) → Reading Octets
  | 0 => return []
  | fuel + 1 => do
    match ← peekCharacter with
    | some c =>
      if test c then
        skipCharacter
        return c :: (← takeCharacters test fuel)
      else return []
    | none => return []

/-- The text before a mark, and what follows the mark. -/
def breakAt (mark : Char) : (before : Octets) → Octets → Option (Octets × Octets)
  | _, [] => none
  | before, c :: rest => if c = mark then some (before.reverse, rest) else breakAt mark (c :: before) rest

/-- The text up to the closing single quote, which is taken as well. -/
def singleQuoted : Reading Octets := do
  let reader ← get
  match breakAt '\'' [] reader.rest with
  | none =>
    set { reader with rest := [], line := reader.line + reader.rest.countP (· == '\n') }
    refuse "Unterminated quoted string"
  | some (text, rest) =>
    set { reader with rest, line := reader.line + text.countP (· == '\n') }
    return text

/-- The text of a command between backquotes, and what follows. In quotes a double quote may be escaped. -/
def backquotedFrom (inQuotes : Bool) : (text : Octets) → Octets → Option (Octets × Octets)
  | _, [] => none
  | text, '\\' :: '\n' :: rest => backquotedFrom inQuotes text rest
  | text, '\\' :: c :: rest =>
    if c = '\\' || c = '\x60' || c = '$' || (inQuotes && c = '"') then backquotedFrom inQuotes (c :: text) rest
    else backquotedFrom inQuotes (c :: '\\' :: text) rest
  | text, c :: rest => if c = '\x60' then some (text.reverse, rest) else backquotedFrom inQuotes (c :: text) rest

/-! ## Here-documents -/

/-- A text up to the end of its line, quoted newlines left aside, and the lines after it. -/
def restOfLine : (quote : Option Char) → (line : Octets) → Octets → Option (Octets × Octets)
  | _, _, [] => none
  | none, line, '\n' :: rest => some (line.reverse, rest)
  | some '\'', line, '\\' :: rest => restOfLine (some '\'') ('\\' :: line) rest
  | quote, line, '\\' :: c :: rest => restOfLine quote (c :: '\\' :: line) rest
  | none, line, c :: rest =>
    restOfLine (if c = '\'' || c = '"' then some c else none) (c :: line) rest
  | some quote, line, c :: rest => restOfLine (if c = quote then none else some quote) (c :: line) rest

/-- The lines before a mark, and those after it. -/
def linesBefore (mark : Octets) (tabs : Bool) : (body : List Octets) → List Octets → List Octets × List Octets
  | body, [] => (body.reverse, [])
  | body, line :: rest =>
    let line := if tabs then line.dropWhile (· = '\t') else line
    if line = mark then (body.reverse, rest) else linesBefore mark tabs (line :: body) rest

/-- Takes the body of a here-document out of the text after this line. -/
def takeBody (mark : Octets) (tabs : Bool) : Reading Octets := do
  let reader ← get
  match restOfLine none [] reader.rest with
  | none => return []
  | some (line, after) =>
    let lines := splitOn '\n' after
    let (body, rest) := linesBefore mark tabs [] lines
    let taken := lines.length - rest.length
    set { reader with rest := line ++ '\n' :: joinWith ['\n'] rest, hidden := reader.hidden + taken }
    let missing := body.length = lines.length
    return if missing then joinWith ['\n'] body else unlines body

/-! ## Words and commands -/

/-- Where pieces of a word are read, which decides what ends them and what is special in them. -/
inductive Context where
  | word
  | quotes
  /-- a word in braces -/
  | brace
  /-- a word in braces inside quotes -/
  | quotedBrace
  | here
  /-- an expression, inside some parentheses of its own -/
  | arithmetic (depth : Nat)
  deriving DecidableEq, Inhabited

/-- Whether letters count as quoted. -/
def Context.quotesLetters : Context → Bool
  | .word => false
  | .brace => false
  | _ => true

/-- The characters that end a word. -/
def endsWord (c : Char) : Bool :=
  " \t\n;&|<>()".toList.contains c

/-- The characters that a backslash keeps from being special inside quotes. -/
def isEscapable (context : Context) (c : Char) : Bool :=
  c = '$' || c = '\x60' || c = '\\' || (c = '"' && context != .here) || (c = '\x7d' && context == .quotedBrace)

/-- Where a list of commands stands. -/
inductive ListPlace where
  /-- at the top, where a newline ends it -/
  | top
  /-- in a command that needs at least one -/
  | block
  /-- where there may be none -/
  | optional
  deriving DecidableEq, Inhabited

/-- The text of a word without its quotes, and whether there were any. -/
def markOf (word : Word) : Octets × Bool :=
  (word.filterMap fun
    | .letter c _ => some c
    | _ => none,
   word.any fun
    | .letter _ quoted => quoted
    | .quotes => true
    | _ => false)

/-- The assignment that a word is. -/
def assignment? : (name : Octets) → Word → Option (Octets × Word)
  | name, .letter '=' false :: rest => if isName name.reverse then some (name.reverse, rest) else none
  | name, .letter c false :: rest => if isNameLetter c then assignment? (c :: name) rest else none
  | _, _ => none

/-- Puts a token back. -/
def pushBack (token : Token) : Reading Unit :=
  modify fun reader => { reader with pushed := some token }

/-- The names of builtins that no function may have. -/
def specialBuiltins : List String :=
  [".", ":", "break", "continue", "eval", "exec", "exit", "export", "readonly", "return", "set", "shift", "times",
   "trap", "unset"]

mutual

/-- The pieces of a word up to its end, after those that were read, last first. -/
def readPieces : (fuel : Nat) → Context → (pieces : Word) → Reading Word
  | 0, _, _ => refuse "too long"
  | fuel + 1, context, pieces => do
    let plain (c : Char) : Reading Word := do
      skipCharacter
      readPieces fuel context (.letter c context.quotesLetters :: pieces)
    let bare := context == .word || context == .brace
    match ← peekCharacter with
    | none =>
      match context with
      | .word => return pieces.reverse
      | .here => return pieces.reverse
      | .brace => refuse "Missing '\x7d'"
      | .arithmetic _ => refuse "Missing '))'"
      | _ => refuse "Unterminated quoted string"
    | some c =>
      if context == .word && endsWord c then return pieces.reverse
      else if context == .quotes && c = '"' then
        skipCharacter
        return pieces.reverse
      else if (context == .brace || context == .quotedBrace) && c = '\x7d' then
        skipCharacter
        return pieces.reverse
      else if c = '\\' then
        skipCharacter
        match ← peekCharacter with
        | none => readPieces fuel context (.letter '\\' true :: pieces)
        | some next =>
          if bare || isEscapable context next then
            skipCharacter
            readPieces fuel context (.letter next true :: pieces)
          else readPieces fuel context (.letter '\\' true :: pieces)
      else if c = '\'' && bare then
        skipCharacter
        let text ← singleQuoted
        let quoted := if text.isEmpty then [.quotes] else lettersOf true text
        readPieces fuel context (quoted.reverse ++ pieces)
      else if c = '"' && (bare || context == .quotedBrace) then
        skipCharacter
        let quoted ← readPieces fuel .quotes []
        readPieces fuel context ((if quoted.isEmpty then [.quotes] else quoted).reverse ++ pieces)
      else if c = '\x60' then
        skipCharacter
        let reader ← get
        match backquotedFrom context.quotesLetters [] reader.rest with
        | none => refuse "EOF in backquote substitution"
        | some (text, rest) =>
          let used := reader.rest.take (reader.rest.length - rest.length)
          set { rest := text, line := reader.line : Reader }
          let script ← readScript fuel []
          set { reader with rest, line := reader.line + used.countP (· == '\n') }
          readPieces fuel context (.substitution script context.quotesLetters :: pieces)
      else if c = '$' then
        skipCharacter
        let found ← readDollar fuel context
        readPieces fuel context (found.reverse ++ pieces)
      else
        match context, c with
        | .arithmetic depth, '(' =>
          skipCharacter
          readPieces fuel (.arithmetic (depth + 1)) (.letter '(' true :: pieces)
        | .arithmetic (depth + 1), ')' =>
          skipCharacter
          readPieces fuel (.arithmetic depth) (.letter ')' true :: pieces)
        | .arithmetic 0, ')' =>
          skipCharacter
          if ← takeCharacter ')' then return pieces.reverse
          else readPieces fuel context (.letter ')' true :: pieces)
        | _, _ => plain c

/-- The pieces after a dollar sign. -/
def readDollar : (fuel : Nat) → Context → Reading Word
  | 0, _ => refuse "too long"
  | fuel + 1, context => do
    let quoted := context.quotesLetters
    match ← peekCharacter with
    | some '(' =>
      skipCharacter
      if ← takeCharacter '(' then
        return [.arithmetic (← readPieces fuel (.arithmetic 0) []) quoted]
      else
        let reader ← get
        set { reader with pushed := none }
        let script ← readList fuel .optional true []
        let token ← readToken fuel false
        match token with
        | .operator ")" => return [.substitution script quoted]
        | token => unexpected token "\")\""
    | some '\x7b' =>
      skipCharacter
      readBraces fuel context
    | some c =>
      if isNameStart c then
        return [.parameter (← takeCharacters isNameLetter fuel) .value quoted]
      else if isSpecial c then
        skipCharacter
        return [.parameter [c] .value quoted]
      else return [.letter '$' quoted]
    | none => return [.letter '$' quoted]

/-- The pieces after a dollar sign and a brace. -/
def readBraces : (fuel : Nat) → Context → Reading Word
  | 0, _ => refuse "too long"
  | fuel + 1, context => do
    let quoted := context.quotesLetters
    let inner : Context := if quoted then .quotedBrace else .brace
    let bad : Reading Word := do
      let _ ← readPieces fuel inner []
      return [.meaningless]
    let readName : Reading (Option Octets) := do
      match ← peekCharacter with
      | some c =>
        if isNameStart c then return some (← takeCharacters isNameLetter fuel)
        else if c.isDigit then return some (← takeCharacters Char.isDigit fuel)
        else if isSpecial c then
          skipCharacter
          return some [c]
        else return none
      | none => return none
    let reader ← get
    let isLength ← do
      if ← takeCharacter '#' then
        match ← peekCharacter with
        | some '\x7d' => pure false
        | some c =>
          if isNameLetter c then pure true
          else if isSpecial c then
            skipCharacter
            pure ((← peekCharacter) = some '\x7d')
          else pure false
        | none => pure false
      else pure false
    set reader
    if isLength then
      skipCharacter
      match ← readName with
      | none => bad
      | some name =>
        if ← takeCharacter '\x7d' then return [.parameter name .length quoted] else bad
    else
      match ← readName with
      | none => bad
      | some name =>
        let orEmpty ← takeCharacter ':'
        match ← peekCharacter with
        | some '\x7d' =>
          if orEmpty then
            skipCharacter
            bad
          else
            skipCharacter
            return [.parameter name .value quoted]
        | some c =>
          let absence : Option Absence := match c with
            | '-' => some .substitute
            | '=' => some .assign
            | '?' => some .refuse
            | '+' => some .alternate
            | _ => none
          match absence with
          | some absence =>
            skipCharacter
            return [.parameter name (.absent absence orEmpty (← readPieces fuel inner [])) quoted]
          | none =>
            if !orEmpty && (c = '%' || c = '#') then
              skipCharacter
              let longest ← takeCharacter c
              return [.parameter name (.trimmed (c = '%') longest (← readPieces fuel .brace [])) quoted]
            else bad
        | none => bad

/-- The next token; with `skip` after any newlines. -/
def readToken : (fuel : Nat) → (skip : Bool) → Reading Token
  | 0, _ => refuse "too long"
  | fuel + 1, skip => do
    let reader ← get
    match reader.pushed with
    | some token =>
      set { reader with pushed := none }
      match token with
      | .newline => if skip then readToken fuel skip else return .newline
      | token => return token
    | none =>
      match ← peekCharacter with
      | none => return .stop
      | some c =>
        if c = ' ' || c = '\t' then
          skipCharacter
          readToken fuel skip
        else if c = '#' then
          modify fun reader => { reader with rest := reader.rest.dropWhile (· != '\n') }
          readToken fuel skip
        else if c = '\n' then
          skipCharacter
          if skip then readToken fuel skip else return .newline
        else if c = '<' || c = '>' then readRedirect none
        else if c = '(' || c = ')' then
          skipCharacter
          return .operator (String.ofList [c])
        else if c = '&' || c = '|' || c = ';' then
          skipCharacter
          if ← takeCharacter c then return .operator (String.ofList [c, c])
          else return .operator (String.ofList [c])
        else
          let word ← readPieces fuel .word []
          match word, ← peekCharacter with
          | [.letter digit false], some c =>
            if digit.isDigit && (c = '<' || c = '>') then readRedirect (some (digit.toNat - '0'.toNat))
            else return .word word
          | _, _ => return .word word
where
  /-- The operator of a redirection. -/
  readRedirect (descriptor : Option Nat) : Reading Token := do
    match ← nextCharacter with
    | some '>' =>
      match ← peekCharacter with
      | some '>' => skipCharacter; return .redirect descriptor ">>"
      | some '|' => skipCharacter; return .redirect descriptor ">|"
      | some '&' => skipCharacter; return .redirect descriptor ">&"
      | _ => return .redirect descriptor ">"
    | _ =>
      match ← peekCharacter with
      | some '<' =>
        skipCharacter
        if ← takeCharacter '-' then return .redirect descriptor "<<-" else return .redirect descriptor "<<"
      | some '&' => skipCharacter; return .redirect descriptor "<&"
      | some '>' => skipCharacter; return .redirect descriptor "<>"
      | _ => return .redirect descriptor "<"

/-- The redirection after its operator. -/
def readTarget : (fuel : Nat) → Option Nat → String → Reading Redirection
  | 0, _, _ => refuse "too long"
  | fuel + 1, descriptor, operator => do
    match ← readToken fuel false with
    | .word word =>
      let input := operator.toList.head? = some '<'
      let descriptor := descriptor.getD (if input then 0 else 1)
      match operator with
      | "<" => return .file descriptor .read word
      | ">" => return .file descriptor .write word
      | ">|" => return .file descriptor .clobber word
      | ">>" => return .file descriptor .append word
      | "<>" => return .file descriptor .readWrite word
      | ">&" => return .duplicate descriptor word
      | "<&" => return .duplicate descriptor word
      | _ =>
        let (mark, quoted) := markOf word
        let body ← takeBody mark (operator = "<<-")
        if quoted then return .here descriptor (lettersOf true body)
        else
          let reader ← get
          set { rest := body, line := reader.line : Reader }
          let pieces ← readPieces fuel .here []
          set reader
          return .here descriptor pieces
    | token => unexpected token "" false

/-- The commands of a list, after those that were read, last first. -/
def readList : (fuel : Nat) → ListPlace → (first : Bool) → (commands : List Command) → Reading Script
  | 0, _, _, _ => refuse "too long"
  | fuel + 1, place, first, commands => do
    match ← readToken fuel (place != .top) with
    | .newline => return commands.reverse
    | .stop =>
      pushBack .stop
      return commands.reverse
    | token =>
      pushBack token
      if place != .top && (place = .optional || !first) && token.endsList then return commands.reverse
      else
        let command ← readChain fuel
        match ← readToken fuel false with
        | .operator "&" => readList fuel place false (.background command :: commands)
        | .operator ";" => readList fuel place false (command :: commands)
        | .newline =>
          pushBack .newline
          readList fuel place false (command :: commands)
        | .stop =>
          pushBack .stop
          return (command :: commands).reverse
        | token =>
          if place = .top then unexpected token
          else
            pushBack token
            return (command :: commands).reverse

/-- Pipelines with conditions between them. -/
def readChain : (fuel : Nat) → Reading Command
  | 0 => refuse "too long"
  | fuel + 1 => do
    let first ← readPipeline fuel false
    let rest ← readLinks fuel
    return if rest.isEmpty then first else .chain first rest

/-- The pipelines after the first, each with its condition. -/
def readLinks : (fuel : Nat) → Reading (List (Bool × Command))
  | 0 => refuse "too long"
  | fuel + 1 => do
    let link (onSuccess : Bool) : Reading (List (Bool × Command)) := do
      let command ← readPipeline fuel true
      return (onSuccess, command) :: (← readLinks fuel)
    match ← readToken fuel false with
    | .operator "&&" => link true
    | .operator "||" => link false
    | token =>
      pushBack token
      return []

/-- Commands of which each reads what the one before writes. -/
def readPipeline : (fuel : Nat) → (skip : Bool) → Reading Command
  | 0, _ => refuse "too long"
  | fuel + 1, skip => do
    let token ← readToken fuel skip
    let negated := token.keyword? == some "!"
    unless negated do pushBack token
    let first ← readCommand fuel false
    let rest ← readStages fuel
    if negated || !rest.isEmpty then return .pipeline negated (first :: rest) else return first

/-- The commands of a pipeline after the first. -/
def readStages : (fuel : Nat) → Reading (List Command)
  | 0 => refuse "too long"
  | fuel + 1 => do
    match ← readToken fuel false with
    | .operator "|" =>
      let command ← readCommand fuel true
      return command :: (← readStages fuel)
    | token =>
      pushBack token
      return []

/-- One command. -/
def readCommand : (fuel : Nat) → (skip : Bool) → Reading Command
  | 0, _ => refuse "too long"
  | fuel + 1, skip => do
    let token ← readToken fuel skip
    let line := (← get).line
    let closing (command : Command) (text : String) : Reading Command := do
      let token ← readToken fuel false
      if token.keyword? == some text then readRedirections fuel line command
      else unexpected token ("\"" ++ text ++ "\"")
    match token.keyword?, token with
    | some "if", _ => closing (← readChoice fuel) "fi"
    | some "while", _ =>
      let condition ← readList fuel .block true []
      expect fuel "do"
      closing (.loop true condition (← readList fuel .block true [])) "done"
    | some "until", _ =>
      let condition ← readList fuel .block true []
      expect fuel "do"
      closing (.loop false condition (← readList fuel .block true [])) "done"
    | some "for", _ =>
      let name ← match ← readToken fuel false with
        | .word word => pure ((plainText? word).filter isName)
        | _ => pure none
      match name with
      | none => refuse "Bad for loop variable"
      | some name =>
        let token ← readToken fuel true
        let words ← do
          if token.keyword? == some "in" then pure (some (← readWords fuel))
          else
            match token with
            | .operator ";" => pure none
            | token =>
              pushBack token
              pure none
        let token ← readToken fuel true
        if token.keyword? == some "do" then
          closing (.each line name words (← readList fuel .block true [])) "done"
        else unexpected token "\"do\""
    | some "case", _ =>
      match ← readToken fuel false with
      | .word word =>
        let token ← readToken fuel true
        if token.keyword? == some "in" then
          let branches ← readBranches fuel
          readRedirections fuel line (.select line word branches)
        else unexpected token "\"in\""
      | token => unexpected token "word"
    | some "\x7b", _ => closing (.group (← readList fuel .block true [])) "\x7d"
    | some _, token => unexpected token
    | none, .operator "(" =>
      let body ← readList fuel .block true []
      match ← readToken fuel false with
      | .operator ")" => readRedirections fuel line (.subshell body)
      | token => unexpected token "\")\""
    | none, .word word =>
      let reader ← get
      match (plainText? word).bind fun text => (reader.aliases.lookup text).map fun value => (text, value) with
      | some (text, value) =>
        set { reader with rest := value ++ reader.rest, aliases := reader.aliases.filter fun entry => entry.1 != text }
        readCommand fuel false
      | none =>
        pushBack (.word word)
        readSimple fuel line [] [] []
    | none, .redirect descriptor operator =>
      pushBack (.redirect descriptor operator)
      readSimple fuel line [] [] []
    | none, token => unexpected token

/-- Takes a keyword. -/
def expect : (fuel : Nat) → String → Reading Unit
  | 0, _ => refuse "too long"
  | fuel + 1, text => do
    let token ← readToken fuel false
    if token.keyword? == some text then return ()
    else unexpected token ("\"" ++ text ++ "\"")

/-- A conditional command after its first keyword, up to the last. -/
def readChoice : (fuel : Nat) → Reading Command
  | 0 => refuse "too long"
  | fuel + 1 => do
    let condition ← readList fuel .block true []
    expect fuel "then"
    let body ← readList fuel .block true []
    let token ← readToken fuel false
    match token.keyword? with
    | some "elif" => return .choice condition body [← readChoice fuel]
    | some "else" => return .choice condition body (← readList fuel .block true [])
    | _ =>
      pushBack token
      return .choice condition body []

/-- Words up to the end of a line or a semicolon. -/
def readWords : (fuel : Nat) → Reading (List Word)
  | 0 => refuse "too long"
  | fuel + 1 => do
    match ← readToken fuel false with
    | .word word => return word :: (← readWords fuel)
    | .newline => return []
    | .operator ";" => return []
    | token => unexpected token "" false

/-- The branches of a selection, up to its end. -/
def readBranches : (fuel : Nat) → Reading (List (List Word × Script))
  | 0 => refuse "too long"
  | fuel + 1 => do
    let token ← readToken fuel true
    if token.keyword? == some "esac" then return []
    else
      match token with
      | .operator "(" => pure ()
      | token => pushBack token
      let patterns ← readPatterns fuel
      let body ← readList fuel .optional true []
      let token ← readToken fuel true
      match token with
      | .operator ";;" => return (patterns, body) :: (← readBranches fuel)
      | token =>
        if token.keyword? == some "esac" then return [(patterns, body)]
        else unexpected token "\";;\""

/-- The patterns of a branch, up to the parenthesis after them. -/
def readPatterns : (fuel : Nat) → Reading (List Word)
  | 0 => refuse "too long"
  | fuel + 1 => do
    match ← readToken fuel false with
    | .word word =>
      match ← readToken fuel false with
      | .operator "|" => return word :: (← readPatterns fuel)
      | .operator ")" => return [word]
      | token => unexpected token "\")\"" false
    | token => unexpected token "\")\"" false

/-- The redirections after a command. -/
def readRedirections : (fuel : Nat) → (line : Nat) → Command → Reading Command
  | 0, _, _ => refuse "too long"
  | fuel + 1, line, command => do
    match ← readToken fuel false with
    | .redirect descriptor operator =>
      let first ← readTarget fuel descriptor operator
      match ← readRedirections fuel line command with
      | .redirected _ command more => return .redirected line command (first :: more)
      | command => return .redirected line command [first]
    | token =>
      pushBack token
      return command

/-- A simple command, or the definition of a function, after what was read of it, last first. -/
def readSimple : (fuel : Nat) → (line : Nat) → (assignments : List (Octets × Word)) → (words : List Word) →
    (redirections : List Redirection) → Reading Command
  | 0, _, _, _, _ => refuse "too long"
  | fuel + 1, line, assignments, words, redirections => do
    let finished : Command := .simple line assignments.reverse words.reverse redirections.reverse
    match ← readToken fuel false with
    | .word word =>
      match if words.isEmpty then assignment? [] word else none with
      | some assignment => readSimple fuel line (assignment :: assignments) words redirections
      | none => readSimple fuel line assignments (word :: words) redirections
    | .redirect descriptor operator =>
      let redirection ← readTarget fuel descriptor operator
      readSimple fuel line assignments words (redirection :: redirections)
    | .operator "(" =>
      match words, assignments.isEmpty && redirections.isEmpty with
      | [word], true =>
        match ← readToken fuel false with
        | .operator ")" =>
          match plainText? word with
          | some name =>
            if isName name && !specialBuiltins.contains (String.ofList name) then
              return .define name (← readCommand fuel true)
            else refuse "Bad function name"
          | none => refuse "Bad function name"
        | token => unexpected token "\")\"" false
      | _, _ =>
        pushBack (.operator "(")
        return finished
    | token =>
      pushBack token
      return finished

/-- All commands up to the end, after those that were read, last first. -/
def readScript : (fuel : Nat) → (lines : List Script) → Reading Script
  | 0, _ => refuse "too long"
  | fuel + 1, lines => do
    let commands ← readList fuel .top true []
    match ← readToken fuel false with
    | .stop => return (commands :: lines).reverse.flatten
    | token =>
      pushBack token
      readScript fuel (commands :: lines)

end

/-- What a line of a script is: the end, commands, or no command. -/
inductive ScriptLine where
  | stop
  | commands (script : Script) (rest : Reader)
  | faulty (fault : SyntaxFault)
  deriving Inhabited

/-- Reads one line, with all that belongs to it. -/
def readLine (reader : Reader) : ScriptLine :=
  let fuel := 8 * reader.rest.length + 64
  match (readList fuel .top true []).run reader with
  | .error fault _ => .faulty fault
  | .ok commands reader =>
    match commands, reader.pushed with
    | [], some .stop => .stop
    | commands, _ => .commands commands reader

end Utterance.Host.Shell
