/-!
# Productions

One rule of a grammar file: a name, a tab, a colon and a space, then the names it may be replaced by, with single
spaces between them.
-/

namespace Utterance
set_option autoImplicit false

/-- A rule that replaces `name` by `symbols`. -/
structure Production where
  name : String
  symbols : List String
  deriving DecidableEq, Repr, Inhabited

/-- The production as a line of a grammar file (`grammar_line`). -/
def Production.line (production : Production) : String :=
  production.name ++ "\t: " ++ " ".intercalate production.symbols ++ "\n"

/-- The productions of a grammar, in the order they are written. -/
abbrev Grammar := List Production

/-- The text of a grammar file. -/
def Grammar.text (grammar : Grammar) : String :=
  String.join (grammar.map Production.line)

end Utterance
