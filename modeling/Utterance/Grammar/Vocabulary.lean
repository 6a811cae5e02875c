/-!
# Vocabularies

A section of a vocabulary file: a heading line with its name, then one line for each word with its phones after a
tab.
-/

namespace Utterance
set_option autoImplicit false

/-- A word and how it is said. -/
structure Entry where
  word : String
  phones : String
  deriving DecidableEq, Repr, Inhabited

/-- The entry as a line of a vocabulary file. -/
def Entry.line (entry : Entry) : String :=
  entry.word ++ "\t" ++ entry.phones ++ "\n"

/-- The words that a name stands for. -/
structure Section where
  name : String
  entries : List Entry
  deriving DecidableEq, Repr, Inhabited

/-- The section as lines of a vocabulary file (`voca_block`). -/
def Section.text (block : Section) : String :=
  "% " ++ block.name ++ "\n" ++ String.join (block.entries.map Entry.line)

/-- The sections of a vocabulary, in the order they are written. -/
abbrev Vocabulary := List Section

/-- The text of a vocabulary file. -/
def Vocabulary.text (vocabulary : Vocabulary) : String :=
  String.join (vocabulary.map Section.text)

end Utterance
