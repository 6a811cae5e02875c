/-!
# Tokens of a pattern

A pattern is written with punctuation, quoted literals (`STRING`), names and numerals (`INT`), with spaces anywhere
between them. A run of digits is a numeral only right after an opening brace or a comma; everywhere else it is a name.
`scan` cuts a text into lexemes, each with the column it starts in. Columns are counted from 1 and start again after a
line feed. Where no token begins, the character is kept as a stray token and the scan ends.
-/

namespace Utterance.Pattern
set_option autoImplicit false

/-- A token; a literal keeps its quotes and escapes. -/
inductive Token where
  | openGroup
  | closeGroup
  | bar
  | openCount
  | comma
  | closeCount
  | plus
  | star
  | question
  | openName
  | closeName
  | literal (spelling : List Char)
  | name (text : List Char)
  | numeral (digits : List Char)
  | stray (c : Char)
  deriving DecidableEq, Repr, Inhabited

/-- A token and the column it starts in. -/
structure Lexeme where
  token : Token
  column : Nat
  deriving DecidableEq, Repr, Inhabited

/-- The spaces that may stand between tokens. -/
def isSpace (c : Char) : Bool :=
  c = ' ' || c = '\t' || c = '\x0c' || c = '\r' || c = '\n'

/-- The characters that no literal contains, not even after a backslash. -/
def isBreak (c : Char) : Bool :=
  c = '\t' || c = '\r' || c = '\n'

/-- The decimal digits. -/
def isDigit (c : Char) : Bool :=
  '0' ≤ c && c ≤ '9'

/-- The characters of a name. -/
def isNameChar (c : Char) : Bool :=
  ('A' ≤ c && c ≤ 'Z') || ('a' ≤ c && c ≤ 'z') || isDigit c || c = '_' || c = '-'

/-- The tokens of one character. -/
def punctuation? : Char → Option Token
  | '(' => some .openGroup
  | ')' => some .closeGroup
  | '|' => some .bar
  | '\x7b' => some .openCount
  | ',' => some .comma
  | '\x7d' => some .closeCount
  | '+' => some .plus
  | '*' => some .star
  | '?' => some .question
  | '<' => some .openName
  | '>' => some .closeName
  | _ => none

/-- What follows the opening quote of a literal, up to and with the closing quote. -/
def literalRest (quote : Char) : List Char → Option (List Char)
  | [] => none
  | '\\' :: c :: rest => if isBreak c then none else (literalRest quote rest).map fun more => '\\' :: c :: more
  | c :: rest =>
    if c = quote then some [c]
    else if c = '\\' || isBreak c then none
    else (literalRest quote rest).map (c :: ·)

namespace Token

/-- The token that starts with `c`, where `rest` follows. -/
def starting (numeric : Bool) (c : Char) (rest : List Char) : Token :=
  match punctuation? c with
  | some token => token
  | none =>
    if c = '"' || c = '\'' then
      match literalRest c rest with
      | some more => .literal (c :: more)
      | none => .stray c
    else if numeric && isDigit c then .numeral (c :: rest.takeWhile isDigit)
    else if isNameChar c then .name (c :: rest.takeWhile isNameChar)
    else .stray c

/-- The characters that the token was written with. -/
def spelling : Token → List Char
  | .openGroup => ['(']
  | .closeGroup => [')']
  | .bar => ['|']
  | .openCount => ['\x7b']
  | .comma => [',']
  | .closeCount => ['\x7d']
  | .plus => ['+']
  | .star => ['*']
  | .question => ['?']
  | .openName => ['<']
  | .closeName => ['>']
  | .literal spelling => spelling
  | .name text => text
  | .numeral digits => digits
  | .stray c => [c]

/-- Whether digits right after this token are a numeral. -/
def announcesNumeral : Token → Bool
  | .openCount => true
  | .comma => true
  | _ => false

/-- Whether no token begins here. -/
def isStray : Token → Bool
  | .stray _ => true
  | _ => false

end Token

/-- The column after a character. -/
def columnAfter (column : Nat) (c : Char) : Nat :=
  if c = '\n' then 1 else column + 1

/-- The lexemes of a text that starts in `column`. The first `skip` characters belong to the token before. -/
def scanFrom (numeric : Bool) : (skip column : Nat) → List Char → List Lexeme
  | _, _, [] => []
  | skip + 1, column, c :: rest => scanFrom numeric skip (columnAfter column c) rest
  | 0, column, c :: rest =>
    if isSpace c then scanFrom numeric 0 (columnAfter column c) rest
    else
      let token := Token.starting numeric c rest
      ⟨token, column⟩ ::
        if token.isStray then []
        else scanFrom token.announcesNumeral (token.spelling.length - 1) (columnAfter column c) rest

/-- The lexemes of a whole text. -/
def scan (text : List Char) : List Lexeme :=
  scanFrom false 0 1 text

end Utterance.Pattern
