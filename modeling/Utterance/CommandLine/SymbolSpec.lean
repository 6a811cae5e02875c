import Utterance.Text.Quoted

/-!
# Symbol specifications

A symbol on the command line is written as its name, an equals sign and its values with commas between them. Empty
values are dropped; everything after the first equals sign belongs to the values.
-/

namespace Utterance.CommandLine
set_option autoImplicit false

/-- A symbol and its values. -/
structure SymbolSpec where
  name : String
  values : List String
  deriving DecidableEq, Repr, Inhabited

/-- The pieces of a text between commas. -/
def commaPieces : List Char → List (List Char)
  | [] => [[]]
  | ',' :: rest => [] :: commaPieces rest
  | c :: rest =>
    match commaPieces rest with
    | [] => [[c]]
    | piece :: pieces => (c :: piece) :: pieces

/-- A specification without an equals sign. -/
structure MalformedSpec where
  spec : String
  deriving DecidableEq, Repr, Inhabited

/-- What is said about it. -/
def MalformedSpec.message (error : MalformedSpec) : String :=
  "expected NAME=value1,value2,... but got " ++ Text.quoted error.spec

/-- The symbol of a specification (`_parse_symbol`). -/
def SymbolSpec.parse (spec : String) : Except MalformedSpec SymbolSpec :=
  let name := spec.toList.takeWhile (· != '=')
  match spec.toList.dropWhile (· != '=') with
  | [] => .error ⟨spec⟩
  | _ :: values =>
    .ok ⟨String.ofList name, ((commaPieces values).filter fun piece => !piece.isEmpty).map String.ofList⟩

end Utterance.CommandLine
