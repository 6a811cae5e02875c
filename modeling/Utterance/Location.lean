/-!
# Places in a source

A place (`SourceLocation`) names a file, a line and a column, both counted from 1, and optionally the column after the
last character it covers. Lines and columns are integers because callers may number as they like.
-/

namespace Utterance
set_option autoImplicit false

/-- A place in a source; `endColumn` is 0 when it covers no known extent. -/
structure Location where
  file : String
  line : Int
  column : Int
  endColumn : Int := 0
  deriving DecidableEq, Repr, Inhabited

/-- The place as `file:line:column`. -/
def Location.text (place : Location) : String :=
  place.file ++ ":" ++ toString place.line ++ ":" ++ toString place.column

end Utterance
