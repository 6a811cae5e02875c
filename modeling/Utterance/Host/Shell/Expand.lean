import Utterance.Host.Shell.Machine

/-!
# Expansion

The words of a command become its arguments: parameters, substitutions and arithmetic are replaced, what they gave is
split into fields unless it was quoted, and patterns are replaced by the names of files.
-/

namespace Utterance.Host.Shell
set_option autoImplicit false

/-! ## Parameters -/

/-- The parameters of the shell with a separator between them. -/
def joinedParameters : ShellM Octets := do
  let separator ← separators
  return joinWith (separator.take 1) (← theShell).parameters

/-- The value of a parameter. -/
def parameterValue (name : Octets) : ShellM (Option Octets) := do
  let shell ← theShell
  match name with
  | ['@'] => if shell.parameters.isEmpty then return none else return some (← joinedParameters)
  | ['*'] => if shell.parameters.isEmpty then return none else return some (← joinedParameters)
  | ['#'] => return some (digitsOf 10 shell.parameters.length)
  | ['?'] => return some (digitsOf 10 shell.status)
  | ['-'] => return some shell.settings
  | ['$'] => return some (digitsOf 10 shell.process)
  | ['!'] => return shell.jobs.head?.map fun job => digitsOf 10 job.process
  | name =>
    match natural? name with
    | some 0 => return some shell.name
    | some n => return shell.parameters[n - 1]?
    | none => valueOf name

/-- The atoms of a value. -/
def valueAtoms (quoted : Bool) (value : Octets) : List Atom :=
  if quoted && value.isEmpty then [.quotes] else value.map fun c => .letter c quoted (!quoted)

/-- The atoms of the parameters of the shell, each a field of its own. -/
def eachParameter (quoted : Bool) (parameters : List Octets) : List Atom :=
  ((parameters.map (valueAtoms quoted)).intersperse [.boundary]).flatten

/-- The atoms of a parameter that has a value. -/
def presentAtoms (name value : Octets) (quoted : Bool) : ShellM (List Atom) := do
  if name = ['@'] || (name = ['*'] && !quoted) then return eachParameter quoted (← theShell).parameters
  else return valueAtoms quoted value

/-- The text of atoms. -/
def atomsText (atoms : List Atom) : Octets :=
  atoms.filterMap fun
    | .letter c _ _ => some c
    | .boundary => some ' '
    | .quotes => none

/-- The characters of atoms, those that stand for themselves marked. -/
def atomsMarked (atoms : List Atom) : Marked :=
  atoms.filterMap fun
    | .letter c quoted _ => some (c, quoted)
    | .boundary => some (' ', true)
    | .quotes => none

/-- Atoms of a word in place of a value, which are split like one. -/
def splitting (quoted : Bool) (atoms : List Atom) : List Atom :=
  if quoted then atoms
  else atoms.map fun
    | .letter c q splits => .letter c q (splits || !q)
    | atom => atom

/-! ## Arithmetic -/

/-- The value of an expression. -/
def calculate (text : Octets) : ShellM Int := do
  let wrong (reason : String) : ShellM Int :=
    giveUp (octets ("arithmetic expression: " ++ reason ++ ": \"") ++ text ++ ['"'])
  let read (name : Octets) : ShellM Int := do
    match ← valueOf name with
    | some value =>
      match Arithmetic.number? value with
      | some n => return n
      | none => giveUp (octets "Illegal number: " ++ value)
    | none =>
      if ← hasSetting 'u' then giveUp (name ++ octets ": parameter not set") else return 0
  match Arithmetic.parse text with
  | .error reason => wrong reason
  | .ok expression =>
    Arithmetic.value
      { read, write := fun name n => setVariable name (Arithmetic.shown n), undefined := wrong "division by zero" }
      expression

/-! ## Substitution of commands -/

/-- A text without the newlines at its end and without null characters. -/
def substitutedText (text : Octets) : Octets :=
  ((text.filter (· != '\x00')).reverse.dropWhile (· = '\n')).reverse

/-- The output of commands that run in a subshell. -/
def outputOf (engine : Engine) (script : Script) : ShellM Octets := do
  let id ← newChannel (.sink [])
  let status ← withDescriptors (connected 1 id) (inSubshell (script.forM (engine.command false)))
  waitForChannel id
  modifyShell fun shell => { shell with substituted := some status }
  let text ← written id
  modify fun machine => { machine with channels := machine.channels.setIfInBounds id .null }
  return substitutedText text

/-! ## Words -/

/-- The atoms of a parameter. -/
def parameterAtoms (engine : Engine) (name : Octets) (use : Use) (quoted : Bool) : ShellM (List Atom) := do
  let found ← parameterValue name
  let several := name = ['@'] || name = ['*']
  let required : ShellM Octets := do
    match found with
    | some value => return value
    | none =>
      if !several && (← hasSetting 'u') then giveUp (name ++ octets ": parameter not set") else return []
  match use with
  | .value => do
    let value ← required
    if found.isNone && several then return (if quoted && name = ['*'] then [.quotes] else [])
    else presentAtoms name value quoted
  | .length => do
    let value ← required
    return valueAtoms quoted (digitsOf 10 value.length)
  | .trimmed fromEnd longest pattern => do
    let value ← required
    return valueAtoms quoted (trimmed fromEnd longest (atomsMarked (← engine.atoms pattern)) value)
  | .absent absence orEmpty word => do
    let present := match found with
      | some value => !orEmpty || !value.isEmpty
      | none => false
    match absence, present with
    | .alternate, true => return splitting quoted (← engine.atoms word)
    | .alternate, false => return (if quoted && !several then [.quotes] else [])
    | _, true => presentAtoms name (found.getD []) quoted
    | .substitute, false =>
      let atoms ← engine.atoms word
      return if quoted && atoms.isEmpty then [.quotes] else splitting quoted atoms
    | .assign, false =>
      let value := atomsText (← engine.atoms word)
      if isName name then
        setVariable name value
        return valueAtoms quoted value
      else giveUp (name ++ octets ": bad variable name")
    | .refuse, false =>
      let text := atomsText (← engine.atoms word)
      let reason :=
        if !text.isEmpty then text
        else octets (if orEmpty then "parameter not set or null" else "parameter not set")
      giveUp (name ++ octets ": " ++ reason)

/-- The atoms of a piece. -/
def pieceAtoms (engine : Engine) : Piece → ShellM (List Atom)
  | .letter c quoted => return [.letter c quoted false]
  | .quotes => return [.quotes]
  | .parameter name use quoted => parameterAtoms engine name use quoted
  | .meaningless => giveUp (octets "Bad substitution")
  | .substitution script quoted => do return valueAtoms quoted (← outputOf engine script)
  | .arithmetic expression quoted => do
    let n ← calculate (atomsText (← engine.atoms expression))
    return valueAtoms quoted (Arithmetic.shown n)

/-- The atoms of a word. -/
def wordAtoms (engine : Engine) (word : Word) : ShellM (List Atom) := do
  let atoms ← word.mapM (pieceAtoms engine)
  return atoms.flatten

/-- A word in which a tilde at the start stands for the home directory. -/
def withHome (word : Word) : ShellM Word := do
  let home : ShellM Word := do
    match ← valueOf (octets "HOME") with
    | some home => return lettersOf true home
    | none => return [.letter '~' true]
  match word with
  | [.letter '~' false] => home
  | .letter '~' false :: .letter '/' false :: rest => return (← home) ++ .letter '/' false :: rest
  | word => return word

/-- The text of a word that is not split. -/
def expandText (engine : Engine) (word : Word) : ShellM Octets := do
  return atomsText (← engine.atoms (← withHome word))

/-- The pattern that a word is. -/
def expandPattern (engine : Engine) (word : Word) : ShellM Marked := do
  return atomsMarked (← engine.atoms (← withHome word))

/-! ## Fields -/

/-- Fields while they are cut: those that are finished, last first, the one that has begun, last first, and whether a
blank has just ended one. -/
structure Cutting where
  fields : List Marked := []
  current : Option Marked := none
  afterBlank : Bool := false
  deriving Inhabited

/-- The fields after the one that has begun is finished. -/
def Cutting.finish (cutting : Cutting) (blank : Bool) : Cutting :=
  match cutting.current with
  | some field => { fields := field.reverse :: cutting.fields, afterBlank := blank }
  | none => cutting

/-- The fields after one more atom. -/
def Cutting.add (separators : Octets) (cutting : Cutting) : Atom → Cutting
  | .boundary => cutting.finish false
  | .quotes => { cutting with current := some (cutting.current.getD []), afterBlank := false }
  | .letter c quoted splits =>
    if splits && separators.contains c then
      if c = ' ' || c = '\t' || c = '\n' then cutting.finish true
      else if cutting.current.isSome then cutting.finish false
      else if cutting.afterBlank then { cutting with afterBlank := false }
      else { cutting with fields := [] :: cutting.fields }
    else { cutting with current := some ((c, quoted) :: cutting.current.getD []), afterBlank := false }

/-- The fields of atoms. -/
def fieldsOf (separators : Octets) (atoms : List Atom) : List Marked :=
  ((atoms.foldl (Cutting.add separators) {}).finish false).fields.reverse

/-- A marked text cut at slashes. -/
def cutAtSlashes : (part : Marked) → Marked → List Marked
  | part, [] => [part.reverse]
  | part, ('/', _) :: rest => part.reverse :: cutAtSlashes [] rest
  | part, c :: rest => cutAtSlashes (c :: part) rest

/-- The paths that go on from a path with a part that may be a pattern. -/
def furtherPaths (files : FileStore) (place : List String) (last : Bool) (part : Marked) (path : Octets) :
    List Octets :=
  let call : Call := { name := [], arguments := [], files, place }
  let ended (path : Octets) : Octets := if last then path else path ++ ['/']
  let finds (path : Octets) : Target := call.find path
  if isPattern part then
    match finds (if path.isEmpty then ['.'] else path) with
    | .directory names =>
      let hidden := part.head?.map Prod.fst = some '.'
      let entries := (if hidden then [".", ".."] else []) ++ files.entries names
      (entries.map octets).filterMap fun name =>
        if (hidden || name.head? != some '.') && part.accepts name then
          let path := path ++ name
          match finds path with
          | .directory _ => some (ended path)
          | _ => if last then some path else none
        else none
    | _ => []
  else
    let path := path ++ part.map Prod.fst
    if last then
      match finds path with
      | .file _ _ => [path]
      | .directory _ => [path]
      | _ => []
    else [path ++ ['/']]

/-- The paths that a pattern of several parts stands for. -/
def pathsOf (files : FileStore) (place : List String) : (parts : List Marked) → (paths : List Octets) → List Octets
  | [], paths => paths
  | [part], paths => paths.flatMap (furtherPaths files place true part)
  | part :: rest, paths => pathsOf files place rest (paths.flatMap (furtherPaths files place false part))

/-- A field as arguments: the files that it stands for, or itself. -/
def fieldArguments (files : FileStore) (place : List String) (field : Marked) : List Octets :=
  if isPattern field then
    match pathsOf files place (cutAtSlashes [] field) [[]] with
    | [] => [field.map Prod.fst]
    | paths => paths.mergeSort inOctetOrder
  else [field.map Prod.fst]

/-- The arguments of words. -/
def expandFields (engine : Engine) (words : List Word) : ShellM (List Octets) := do
  let arguments ← words.mapM fun word => do
    let atoms ← engine.atoms (← withHome word)
    let fields := fieldsOf (← separators) atoms
    if ← hasSetting 'f' then return fields.map fun field => field.map Prod.fst
    else
      let machine ← get
      return fields.flatMap (fieldArguments machine.files machine.shell.place)
  return arguments.flatten

end Utterance.Host.Shell
