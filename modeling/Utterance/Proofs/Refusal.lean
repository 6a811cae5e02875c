import Utterance.Proofs.Offences

/-!
# How parsing fails

A text that is not parsed is refused for a fault at a place in it, or it holds a numeral with more digits than can be
converted or a group inside of too many others (`refuses_of_parse`). The builder never fails: every group that is opened
is closed, and no other.
-/

namespace Utterance.Pattern
set_option autoImplicit false

/-- The digits of the numeral that a token is. -/
def Token.numeral? : Token → Option (List Char)
  | .numeral digits => some digits
  | _ => none

/-- The digits of the numerals in a text. -/
def numerals (text : List Char) : List (List Char) :=
  (scan text).filterMap fun lexeme => lexeme.token.numeral?

/-- A group of the text is inside of as many others as there is room for. -/
def IsDeep [Limits] (text : List Char) : Prop :=
  ∃ before after, (scan text).map Lexeme.token = before ++ .openGroup :: after ∧ Limits.nesting ≤ groupsOpen before

/-- The place is in the line of the source. -/
def Source.Holds (source : Source) (place : Location) : Prop :=
  place.file = source.file ∧ place.line = source.line

/-- Why a source is not parsed. -/
inductive Source.Refuses [Limits] (source : Source) : ParseError → Prop where
  /-- there is a fault in it -/
  | fault {fault : Fault} {place : Location} (inside : source.Holds place) :
      Refuses source (.rejected (fault.error source.pattern place))
  /-- a numeral cannot be converted -/
  | numeral {digits : List Char} (listed : digits ∈ numerals source.pattern.toList) (long : digitLimit < digits.length) :
      Refuses source (.oversizedNumeral digits.length)
  /-- a group is too deep -/
  | group (deep : IsDeep source.pattern.toList) : Refuses source .tooDeep

theorem Source.holds_refusal (source : Source) (refusal : Refusal) : source.Holds (source.refusal refusal).2 := by
  unfold Source.refusal
  split <;> exact ⟨rfl, rfl⟩

theorem mem_numerals {text : List Char} {before after : List Lexeme} {digits : List Char} {column : Nat}
    (scanned : scan text = before ++ ⟨.numeral digits, column⟩ :: after) : digits ∈ numerals text :=
  List.mem_filterMap.2 ⟨⟨.numeral digits, column⟩, by simp [scanned], rfl⟩

variable [Limits] {source : Source} {error : ParseError}

/-- What is wrong with a lexeme is why its text is refused. -/
theorem refuses_of_offence? {before after : List Lexeme} {lexeme : Lexeme}
    (scanned : scan source.pattern.toList = before ++ lexeme :: after)
    (wrong : offence? source (groupsOpen (before.map Lexeme.token)) lexeme.column lexeme.token
      (after.map Lexeme.token) = some error) : source.Refuses error := by
  obtain ⟨token, column⟩ := lexeme
  cases token with
  | literal spelling =>
    simp only [offence?] at wrong
    split at wrong
    · cases wrong
      exact .fault ⟨rfl, rfl⟩
    · cases wrong
  | numeral digits =>
    simp only [offence?] at wrong
    split at wrong
    · rename_i long
      cases wrong
      exact .numeral (mem_numerals scanned) long
    · split at wrong
      · split at wrong
        · cases wrong
          exact .fault ⟨rfl, rfl⟩
        · cases wrong
      · cases wrong
  | openGroup =>
    simp only [offence?] at wrong
    split at wrong
    · cases wrong
    · rename_i noRoom
      cases wrong
      refine .group ⟨before.map Lexeme.token, after.map Lexeme.token, ?_, Nat.le_of_not_lt noRoom⟩
      rw [scanned, List.map_append, List.map_cons]
  | _ => cases wrong

/-- A text that is not parsed has a fault, a numeral that cannot be converted, or a group that is too deep. -/
theorem refuses_of_parse (failed : parse source = .error error) : source.Refuses error := by
  cases read : marks source.pattern.toList with
  | error refusal =>
    rw [parse, read] at failed
    cases failed
    exact .fault (source.holds_refusal refusal)
  | ok marks =>
    obtain ⟨before, lexeme, after, scanned, wrong, _⟩ :=
      firstOffence?_eq_some_iff.1 ((parse_eq_error_iff_first read).1 failed)
    exact refuses_of_offence? scanned wrong

/-- Every group that is opened is closed, and no other. -/
theorem parse_ne_build (source : Source) (fault : BuildFault) : parse source ≠ .error (.build fault) := by
  intro failed
  cases refuses_of_parse failed

end Utterance.Pattern
