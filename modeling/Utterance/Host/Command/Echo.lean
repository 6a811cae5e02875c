import Utterance.Host.Command.Printf

/-!
# Words printed as a line

`echo` prints its words with blanks between them. Inside a shell escapes are always replaced and only a first `-n` is a
switch; the command of its own has switches for both.
-/

namespace Utterance.Host.Echo
set_option autoImplicit false

open Printf (replaceEscapes readEscape)

/-- A line of words, with a newline unless it is not wanted or an escape ends the output. -/
def line (escape : Option (Octets → Printf.Escape)) (newline : Bool) (words : List Octets) : Octets :=
  let text := joinWith [' '] words
  let (text, finished) := match escape with
    | some escape => replaceEscapes escape text.length text
    | none => (text, false)
  if newline && !finished then text ++ ['\n'] else text

/-- The words that a shell prints. -/
def inShell (words : List Octets) : Octets :=
  let escape := some (readEscape false false true true)
  match words with
  | ['-', 'n'] :: words => line escape false words
  | words => line escape true words

/-- Whether a word is a cluster of switches. -/
def isSwitch : Octets → Bool
  | '-' :: c :: rest => (c :: rest).all fun c => c = 'n' || c = 'e' || c = 'E'
  | _ => false

/-- The words that the command of its own prints. -/
def standalone (words : List Octets) : Octets :=
  let switches := (words.takeWhile isSwitch).flatten
  let escapes := (switches.reverse.find? fun c => c = 'e' || c = 'E') == some 'e'
  let escape := if escapes then some (readEscape true false true true) else none
  line escape (!switches.contains 'n') (words.dropWhile isSwitch)

end Utterance.Host.Echo
