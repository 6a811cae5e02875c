import Utterance.Pattern.Parse
import Utterance.Proofs.Phrase

/-!
# How expressions are spelled

An expression may be spelled in many ways: a literal in either kind of quotes and with backslashes, a number with zeros
before it, and spaces anywhere between tokens. The ways are given twice over, first as lists of tokens and then as texts
of these tokens. Nothing here refers to how a text is read.
-/

namespace Utterance.Pattern
set_option autoImplicit false

/-- The ways to write a text between quotes, every character as itself or after a backslash. -/
inductive Escaped (quote : Char) : (written text : List Char) → Prop where
  | nil : Escaped quote [] []
  | plain {c : Char} {written text : List Char} (noQuote : c ≠ quote) (noBackslash : c ≠ '\\') (noBreak : ¬isBreak c)
      (rest : Escaped quote written text) : Escaped quote (c :: written) (c :: text)
  | escaped {c : Char} {written text : List Char} (noBreak : ¬isBreak c) (rest : Escaped quote written text) :
      Escaped quote ('\\' :: c :: written) (c :: text)

/-- The text between the quotes of a literal. -/
def IsLiteral (spelling text : List Char) : Prop :=
  ∃ quote written, (quote = '"' ∨ quote = '\'') ∧ Escaped quote written text ∧ spelling = quote :: written ++ [quote]

/-- The letters of a name. -/
def IsName (name : List Char) : Prop :=
  name ≠ [] ∧ ∀ c ∈ name, isNameChar c

instance (name : List Char) : Decidable (IsName name) :=
  decidable_of_iff ((!name.isEmpty && name.all isNameChar) = true) (by simp [IsName])

/-- The decimal digits of a number. -/
def IsNumeral (digits : List Char) (number : Nat) : Prop :=
  digits ≠ [] ∧ (∀ c ∈ digits, isDigit c) ∧ Nat.ofDigitChars 10 digits 0 = number

/-- The ways to spell an atom. A literal has some text. -/
def Atom.spellings : Atom → Language Token
  | .literal text => {tokens | text ≠ "" ∧ ∃ spelling, IsLiteral spelling text.toList ∧ tokens = [.literal spelling]}
  | .symbol name => {tokens | IsName name.toList ∧ tokens = [.openName, .name name.toList, .closeName]}

/-- The ways to spell a repeat. A range does not end below its start. -/
def Repeat.spellings : Repeat → Language Token
  | .range least most =>
    {tokens | least ≤ most ∧ ∃ low high, IsNumeral low least ∧ IsNumeral high most ∧
      tokens = [.openCount, .numeral low, .comma, .numeral high, .closeCount]}
  | .exactly count => {tokens | ∃ digits, IsNumeral digits count ∧ tokens = [.openCount, .numeral digits, .closeCount]}
  | .oneOrMore => {[.plus]}
  | .zeroOrMore => {[.star]}
  | .optional => {[.question]}

mutual

/-- The ways to spell an item. -/
def Item.spellings : Item Atom Unit Repeat → Language Token
  | .atom content repeated => content.spellings * repeated.elim 1 Repeat.spellings
  | .group _ inner repeated =>
    {[.openGroup]} * inner.spellings * {[.closeGroup]} * repeated.elim 1 Repeat.spellings

/-- The ways to spell a phrase. -/
def Phrase.spellings : Phrase Atom Unit Repeat → Language Token
  | .last item => item.spellings
  | .cons item rest => item.spellings * rest.spellings

/-- The ways to spell alternatives, with bars between them. -/
def Choice.spellings : Choice Atom Unit Repeat → Language Token
  | .last phrase => phrase.spellings
  | .cons phrase rest => phrase.spellings * {[.bar]} * rest.spellings

end

/-- A text that consists of the tokens, with any number of spaces before, between and after them. -/
inductive Rendered : List Token → List Char → Prop where
  | nil {spaces : List Char} (blank : ∀ c ∈ spaces, isSpace c) : Rendered [] spaces
  | cons {spaces : List Char} {token : Token} {tokens : List Token} {rest : List Char} (blank : ∀ c ∈ spaces, isSpace c)
      (rendered : Rendered tokens rest) : Rendered (token :: tokens) (spaces ++ (token.spelling ++ rest))

/-- The text is a way to write the expression. -/
def Expression.SpelledBy (expression : Expression) (text : List Char) : Prop :=
  ∃ tokens ∈ expression.spellings, Rendered tokens text

end Utterance.Pattern
