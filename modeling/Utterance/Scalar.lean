import Utterance.Capacity

/-!
# Plain values

The values a caller may give for a symbol: texts, integers, truth values and nothing. Each has a text of its own, but
for integers with too many digits, and only a text is a collection, namely of its characters.
-/

namespace Utterance
set_option autoImplicit false

/-- A plain value. -/
inductive Scalar where
  | text (value : String)
  | number (value : Int)
  | truth (value : Bool)
  | nothing
  deriving DecidableEq, Repr, Inhabited

namespace Scalar

/-- The value as text, if it can be written. -/
def text? : Scalar → Option String
  | .text value => some value
  | .number value => if isWritable value then some (toString value) else none
  | .truth true => some "True"
  | .truth false => some "False"
  | .nothing => some "None"

/-- The name of the kind of value. -/
def kindName : Scalar → String
  | .text _ => "str"
  | .number _ => "int"
  | .truth _ => "bool"
  | .nothing => "NoneType"

end Scalar

/-- What may be given where the values of a symbol are wanted. -/
inductive SymbolValues where
  | list (values : List Scalar)
  | single (value : Scalar)
  deriving DecidableEq, Repr, Inhabited

/-- The members of what was given; those of a single text are its characters, and no other single value is a
collection. -/
def SymbolValues.members : SymbolValues → Except Scalar (List Scalar)
  | .list values => .ok values
  | .single (.text value) => .ok (value.toList.map fun c => .text (String.singleton c))
  | .single value => .error value

end Utterance
