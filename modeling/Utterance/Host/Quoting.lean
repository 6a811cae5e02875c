import Utterance.Host.Octets

/-!
# Names and words in complaints

The commands of the host put the names of files into complaints so that a shell would read them back: plain if nothing
in them is special, else in quotes. Words that are no names stand between typographic quotes.
-/

namespace Utterance.Host
set_option autoImplicit false

/-- The letter that stands for a control character after a backslash. -/
def controlLetter? : Char → Option Char
  | '\x07' => some 'a'
  | '\x08' => some 'b'
  | '\t' => some 't'
  | '\n' => some 'n'
  | '\x0b' => some 'v'
  | '\x0c' => some 'f'
  | '\r' => some 'r'
  | _ => none

/-- A control character as an escape. -/
def controlEscape (c : Char) : Octets :=
  match controlLetter? c with
  | some letter => ['\\', letter]
  | none => '\\' :: padLeft 3 (digitsOf 8 c.toNat) '0'

/-- Whether a character is a control character. -/
def isControl (c : Char) : Bool :=
  c < ' ' || c = '\x7f'

/-- The characters that mean themselves to a shell. -/
def isPlain (c : Char) : Bool :=
  c.isAlphanum || "%+,-./:]_@\x7b\x7d".toList.contains c || '\x80' ≤ c

/-- Whether a name needs no quotes. -/
def isPlainName (name : Octets) : Bool :=
  match name with
  | [] => false
  | c :: rest => isPlain c && c != ':' && rest.all fun c => (isPlain c && c != ':') || c = '#' || c = '~'

/-- A name between single quotes, control characters as escapes of their own; `escaped` is inside such an escape. -/
def singleQuotedFrom : (escaped : Bool) → Octets → Octets
  | _, [] => ['\'']
  | escaped, c :: rest =>
    if isControl c then (if escaped then [] else "'$'".toList) ++ controlEscape c ++ singleQuotedFrom true rest
    else
      let opening := if escaped then "''".toList else []
      let letter := if c = '\'' then "'\\''".toList else [c]
      opening ++ letter ++ singleQuotedFrom false rest

/-- A name in quotes. -/
def quotedName (name : Octets) : Octets :=
  if name.contains '\'' && name.all (fun c => isPlain c || c = '\'' || c = ' ' || c = '#' || c = '~') then
    ['"'] ++ name ++ ['"']
  else ['\''] ++ singleQuotedFrom false name

/-- A name, in quotes if it needs them. -/
def shownName (name : Octets) : Octets :=
  if isPlainName name then name else quotedName name

/-- A word between typographic quotes. -/
def quotedWord (word : Octets) : Octets :=
  let shown (c : Char) : Octets :=
    if c = '\\' then ['\\', '\\'] else if isControl c then controlEscape c else [c]
  octets "‘" ++ word.flatMap shown ++
    octets "’"

end Utterance.Host
