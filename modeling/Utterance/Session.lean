import Utterance.Failure

/-!
# Sessions

A session is a grammar and a vocabulary under construction (`CompilationSession`). Patterns add sentences, symbols add
sections. Item numbers only ever grow, also over a reset, so that no name is given twice. What is done to a session is a
`Step`: it changes the session bit by bit, and where it fails the changes that it made before remain.
-/

namespace Utterance
set_option autoImplicit false

/-- The sentence of every grammar: noise between silences. -/
def preambleGrammar : Grammar :=
  [⟨Name.start, [Name.silenceBegin, Name.noise, Name.silenceEnd]⟩]

/-- The sections of every vocabulary: the silences and the noise. -/
def preambleVocabulary : Vocabulary :=
  [⟨Name.silenceBegin, [⟨"<s>", "silB"⟩]⟩, ⟨Name.silenceEnd, [⟨"<s>", "silE"⟩]⟩, ⟨Name.noise, [⟨"<sp>", "sp"⟩]⟩]

/-- A grammar and a vocabulary under construction. -/
structure Session where
  grammar : Grammar := preambleGrammar
  vocabulary : Vocabulary := preambleVocabulary
  nextNumber : Int := 0
  deriving DecidableEq, Repr, Inhabited

/-- Whether a text may name a symbol. -/
def isSymbolName (name : String) : Bool :=
  !name.isEmpty && name.toList.all Pattern.isNameChar

namespace Session

/-- The node table of a pattern. -/
def parse [Limits] (source : Pattern.Source) : Except Failure NodeTable :=
  (Pattern.parse source).mapError Failure.ofParse

/-- The entry of a value. -/
def entry (transliterate : Transliterator) (value : Scalar) : Except Failure Entry :=
  match value.text? with
  | none => .error .oversizedNumber
  | some word =>
    match transliterate word with
    | .ok phones => .ok ⟨word, phones⟩
    | .error fault => .error (.ofTransliteration fault)

/-- The entries of values, up to the first that has none. -/
def entries (transliterate : Transliterator) : List Scalar → Except Failure (List Entry)
  | [] => .ok []
  | value :: rest => do
    let first ← entry transliterate value
    let more ← entries transliterate rest
    return first :: more

/-- The section of a symbol. Only a text can name one. -/
def symbolSection (transliterate : Transliterator) (name : Scalar) (values : SymbolValues) : Except Failure Section :=
  match name with
  | .text name =>
    if isSymbolName name then do
      let members ← values.members.mapError Failure.notACollection
      let entries ← entries transliterate members
      return ⟨name, entries⟩
    else .error (.user (.symbolName name))
  | other =>
    match other.text? with
    | some text => .error (.user (.symbolName text))
    | none => .error .oversizedNumber

/-- Something that is done to a session. -/
abbrev Step := EStateM Failure Session

namespace Step

/-- Adds a pattern as one more sentence (`CompilationSession.add`). -/
def add [Limits] (transliterate : Transliterator) (source : Pattern.Source) : Step Unit := do
  let table ← MonadExcept.ofExcept (parse source)
  let number := (← get).nextNumber
  let lowered ← MonadExcept.ofExcept ((table.lower transliterate number).mapError Failure.ofLowering)
  modify fun session => { session with grammar := session.grammar ++ lowered.grammar }
  modify fun session => { session with vocabulary := session.vocabulary ++ lowered.vocabulary }
  modify fun session => { session with nextNumber := lowered.nextNumber }

/-- Adds a symbol with its values (`CompilationSession.add_symbol`). -/
def addSymbol (transliterate : Transliterator) (name : Scalar) (values : SymbolValues) : Step Unit := do
  let block ← MonadExcept.ofExcept (symbolSection transliterate name values)
  modify fun session => { session with vocabulary := session.vocabulary ++ [block] }

/-- Drops what was added; the numbers go on (`CompilationSession.reset`). -/
def reset : Step Unit := do
  modify fun session => { session with grammar := preambleGrammar }
  modify fun session => { session with vocabulary := preambleVocabulary }

end Step

end Session

end Utterance
