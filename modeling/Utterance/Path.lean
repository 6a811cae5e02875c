import Utterance.Text.Quoted

/-!
# Paths

A path (`PurePosixPath`) is a root and the names below it. Repeated slashes and single dots are dropped when it is read,
two dots are kept, and so are exactly two slashes at the start. A path without names is written as one dot.
-/

namespace Utterance
set_option autoImplicit false

/-- A normalised path. -/
structure Path where
  /-- nothing, one slash or two -/
  root : String
  names : List String
  deriving DecidableEq, Repr, Inhabited

namespace Path

/-- The pieces of a text between slashes. -/
def pieces : List Char → List (List Char)
  | [] => [[]]
  | '/' :: rest => [] :: pieces rest
  | c :: rest =>
    match pieces rest with
    | [] => [[c]]
    | piece :: more => (c :: piece) :: more

/-- The root that a text starts with. -/
def rootOf : List Char → String
  | '/' :: '/' :: '/' :: _ => "/"
  | '/' :: '/' :: _ => "//"
  | '/' :: _ => "/"
  | _ => ""

/-- The names in a text: its pieces without the empty ones and the single dots. -/
def namesOf (text : List Char) : List String :=
  ((pieces text).filter fun piece => !piece.isEmpty && piece != ['.']).map String.ofList

/-- The path that a text means. -/
def ofText (text : String) : Path :=
  ⟨rootOf text.toList, namesOf text.toList⟩

/-- The path as text. -/
def text (path : Path) : String :=
  if path.root.isEmpty && path.names.isEmpty then "." else path.root ++ "/".intercalate path.names

/-- The last name, empty if there is none. -/
def name (path : Path) : String :=
  path.names.getLastD ""

/-- Why a path has no neighbour of some name. -/
inductive Fault where
  /-- the path has no last name to replace -/
  | emptyName (path : Path)
  /-- the text is not a single name -/
  | invalidName (name : String)
  deriving DecidableEq, Repr, Inhabited

/-- What is said about a fault. -/
def Fault.message : Fault → String
  | .emptyName path => "PosixPath(" ++ Text.quoted path.text ++ ") has an empty name"
  | .invalidName name => "Invalid name " ++ Text.quoted name

/-- Whether a text can stand as the last name: without a root or a slash at its end, and with one name in it. -/
def isSingleName (name : String) : Bool :=
  (rootOf name.toList).isEmpty && name.toList.getLast? != some '/' && (namesOf name.toList).length == 1

/-- The path with its last name replaced (`with_name`). -/
def withName (path : Path) (name : String) : Except Fault Path :=
  if path.name.isEmpty then .error (.emptyName path)
  else if isSingleName name then .ok { path with names := path.names.dropLast ++ [name] }
  else .error (.invalidName name)

/-- The path with an extension after its last name. -/
def withExtension (path : Path) (extension : String) : Except Fault Path :=
  path.withName (path.name ++ extension)

end Path

end Utterance
