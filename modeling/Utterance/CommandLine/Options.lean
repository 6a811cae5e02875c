import Utterance.Text.Digit
import Utterance.Text.Quoted

/-!
# Options

The arguments of the command. Options and the one file may be mixed. A long option may be shortened as long as only one
fits, its value follows it or an equals sign; short options without a value may share a dash, and a value may follow
its short option directly. A value in the same argument that is a double dash is dropped, so that the option is given
without one. After a double dash everything is a plain argument. Plain arguments beyond the file, and options that
nobody knows, are left over and refused at the end.
-/

namespace Utterance.CommandLine
set_option autoImplicit false

/-- The options. -/
inductive Flag where
  | help
  | output
  | symbol
  | mkdfa
  | test
  | dumpAst
  | encoding
  | verbose
  deriving DecidableEq, Repr, Inhabited

namespace Flag

/-- The spellings of the options, in the order they are listed. -/
def spellings : List (String × Flag) :=
  [("-h", .help), ("--help", .help), ("-o", .output), ("--output", .output), ("--symbol", .symbol),
   ("--mkdfa", .mkdfa), ("--test", .test), ("--dump-ast", .dumpAst), ("--encoding", .encoding), ("-v", .verbose),
   ("--verbose", .verbose)]

/-- Whether the option has a value. -/
def takesValue : Flag → Bool
  | .output => true
  | .symbol => true
  | .encoding => true
  | _ => false

/-- The option in messages: all its spellings. -/
def title (flag : Flag) : String :=
  "/".intercalate ((spellings.filter fun spelling => spelling.2 == flag).map Prod.fst)

end Flag

/-- What the arguments ask for. An option whose value was dropped has `none`. -/
structure Options where
  file : String
  output : Option String := some "tmp"
  symbols : List (Option String) := []
  mkdfa : Bool := false
  test : Bool := false
  dumpAst : Bool := false
  encoding : Option String := some "utf-8"
  verbose : Bool := false
  deriving DecidableEq, Repr, Inhabited

/-- Why the arguments cannot be used. -/
inductive UsageFault where
  | ambiguous (argument : String) (spellings : List String)
  | missingValue (flag : Flag)
  | ignoredValue (flag : Flag) (value : String)
  | fileRequired
  | unrecognized (arguments : List String)
  deriving DecidableEq, Repr, Inhabited

/-- What is said about it. -/
def UsageFault.message : UsageFault → String
  | .ambiguous argument spellings =>
    "ambiguous option: " ++ argument ++ " could match " ++ ", ".intercalate spellings
  | .missingValue flag => "argument " ++ flag.title ++ ": expected one argument"
  | .ignoredValue flag value => "argument " ++ flag.title ++ ": ignored explicit argument " ++ Text.quoted value
  | .fileRequired => "the following arguments are required: file"
  | .unrecognized arguments => "unrecognized arguments: " ++ " ".intercalate arguments

/-- What an argument is. -/
inductive Argument where
  | plain (text : String)
  /-- the double dash -/
  | separator
  /-- an option, with the text in the same argument if there is any; `short` if one dash introduces it -/
  | option (flag : Flag) (short : Bool) (attached : Option (List Char))
  | unknown (text : String)
  deriving DecidableEq, Repr, Inhabited

/-- Whether a text is one or more digits. -/
def isDigits (text : List Char) : Bool :=
  !text.isEmpty && text.all Text.isDecimalDigit

/-- A text without the line feed at its end. -/
def dropFinalNewline (text : List Char) : List Char :=
  if text.getLast? = some '\n' then text.dropLast else text

/-- Whether a text is a negative number, with or without a fraction. -/
def isNegativeNumber (text : List Char) : Bool :=
  match dropFinalNewline text with
  | '-' :: rest =>
    isDigits rest ||
      match rest.dropWhile Text.isDecimalDigit with
      | '.' :: fraction => isDigits fraction
      | _ => false
  | _ => false

/-- The part of an argument before its first equals sign, and what follows it. -/
def splitEquals (text : List Char) : List Char × Option (List Char) :=
  match text.dropWhile (· != '=') with
  | [] => (text, none)
  | _ :: value => (text.takeWhile (· != '='), some value)

/-- Whether two dashes introduce an argument. -/
def isLong : List Char → Bool
  | '-' :: '-' :: _ => true
  | _ => false

/-- The options that an argument may mean when it is no spelling itself. -/
def candidates (text : List Char) : List (String × Argument) :=
  if isLong text then
    let (start, value) := splitEquals text
    (Flag.spellings.filter fun spelling => start.isPrefixOf spelling.1.toList).map fun (spelling, flag) =>
      (spelling, .option flag false value)
  else
    Flag.spellings.filterMap fun (spelling, flag) =>
      if spelling.toList == text.take 2 then some (spelling, .option flag true (some (text.drop 2)))
      else if text.isPrefixOf spelling.toList then some (spelling, .option flag (!isLong spelling.toList) none)
      else none

/-- The option that is spelled out, alone or before an equals sign. -/
def spelled? (text : List Char) : Option Argument :=
  match Flag.spellings.lookup (String.ofList text) with
  | some flag => some (.option flag (!isLong text) none)
  | none =>
    let (start, value) := splitEquals text
    match value, Flag.spellings.lookup (String.ofList start) with
    | some value, some flag => some (.option flag (!isLong start) (some value))
    | _, _ => none

/-- What one argument is, before any double dash. -/
def classify (argument : String) : Except UsageFault Argument :=
  match argument.toList with
  | '-' :: letter :: rest =>
    let text := '-' :: letter :: rest
    match spelled? text with
    | some option => .ok option
    | none =>
      match candidates text with
      | [(_, option)] => .ok option
      | [] => .ok (if isNegativeNumber text || text.contains ' ' then .plain argument else .unknown argument)
      | several => .error (.ambiguous argument (several.map Prod.fst))
  | _ => .ok (.plain argument)

/-- What the arguments are. -/
def classifyAll : List String → Except UsageFault (List Argument)
  | [] => .ok []
  | argument :: rest =>
    if argument = "--" then .ok (.separator :: rest.map Argument.plain)
    else do
      let first ← classify argument
      let more ← classifyAll rest
      return first :: more

/-- An option that was given, with its value if it has one. -/
structure Setting where
  flag : Flag
  value : Option String
  deriving DecidableEq, Repr, Inhabited

/-- An option with a value in the same argument. -/
def Setting.attached (flag : Flag) (text : List Char) : Setting :=
  ⟨flag, if text = ['-', '-'] then none else some (String.ofList text)⟩

/-- What one argument gives: settings, and after them an option that still needs a value. -/
structure Cluster where
  settings : List Setting := []
  pending : Option Flag := none
  deriving DecidableEq, Repr, Inhabited

/-- The cluster with an option without value before all others. -/
def Cluster.cons (flag : Flag) (cluster : Cluster) : Cluster :=
  { cluster with settings := ⟨flag, none⟩ :: cluster.settings }

/-- An option alone in its argument. -/
def Cluster.single (flag : Flag) : Cluster :=
  if flag.takesValue then { pending := some flag } else { settings := [⟨flag, none⟩] }

/-- The options that share the dash of an option without value. Every letter has to be an option; the first that takes
a value takes the rest. -/
def shareDash (flag : Flag) : List Char → Except UsageFault Cluster
  | [] => .ok (.single flag)
  | letter :: rest =>
    match Flag.spellings.lookup (String.ofList ['-', letter]) with
    | none => .error (.ignoredValue flag (String.ofList (letter :: rest)))
    | some next =>
      if next.takesValue && !rest.isEmpty then .ok (Cluster.cons flag { settings := [.attached next rest] })
      else if next.takesValue then .ok (Cluster.cons flag (.single next))
      else (shareDash next rest).map (Cluster.cons flag)

/-- What an option argument gives. -/
def cluster (flag : Flag) (short : Bool) : Option (List Char) → Except UsageFault Cluster
  | none => .ok (.single flag)
  | some text =>
    if flag.takesValue then .ok { settings := [.attached flag text] }
    else if short && !text.isEmpty then shareDash flag text
    else .error (.ignoredValue flag (String.ofList text))

/-- What the arguments have given so far. -/
structure Gathered where
  file : Option String := none
  options : Options := { file := "" }
  extras : List String := []
  /-- the last argument was taken as the file -/
  justFile : Bool := false
  deriving DecidableEq, Repr, Inhabited

/-- Sets an option; `none` if it asks for help. -/
def Options.set (options : Options) (setting : Setting) : Option Options :=
  match setting.flag with
  | .help => none
  | .output => some { options with output := setting.value }
  | .symbol => some { options with symbols := options.symbols ++ [setting.value] }
  | .mkdfa => some { options with mkdfa := true }
  | .test => some { options with test := true }
  | .dumpAst => some { options with dumpAst := true }
  | .encoding => some { options with encoding := setting.value }
  | .verbose => some { options with verbose := true }

/-- Why the arguments give no options: help is wanted, or they cannot be used. -/
inductive Refusal where
  | helpWanted
  | unusable (fault : UsageFault)
  deriving DecidableEq, Repr, Inhabited

namespace Gathered

/-- Sets options in order. -/
def set (gathered : Gathered) : List Setting → Except Refusal Gathered
  | [] => .ok gathered
  | setting :: rest =>
    match gathered.options.set setting with
    | none => .error .helpWanted
    | some options => { gathered with options }.set rest

/-- Leaves arguments over. -/
def leaveOver (gathered : Gathered) (arguments : List String) : Gathered :=
  { gathered with extras := gathered.extras ++ arguments, justFile := false }

/-- One more plain argument: the file, if there is none yet. -/
def plain (gathered : Gathered) (text : String) : Gathered :=
  match gathered.file with
  | none => { gathered with file := some text, justFile := true }
  | some _ => gathered.leaveOver [text]

/-- The double dash, which is left over unless it stands next to the file. -/
def separator (gathered : Gathered) : Gathered :=
  if gathered.file.isNone || gathered.justFile then gathered else gathered.leaveOver ["--"]

/-- The arguments in order. An option that lacks its value is refused before any of its cluster is set. -/
def read (gathered : Gathered) : List Argument → Except Refusal Gathered
  | [] => .ok gathered
  | .plain text :: rest => (gathered.plain text).read rest
  | .separator :: rest => gathered.separator.read rest
  | .unknown text :: rest => (gathered.leaveOver [text]).read rest
  | .option flag short attached :: rest =>
    match cluster flag short attached with
    | .error fault => .error (.unusable fault)
    | .ok cluster =>
      let gathered := { gathered with justFile := false }
      match cluster.pending, rest with
      | none, rest => (gathered.set cluster.settings).bind fun next => next.read rest
      | some flag, .plain text :: rest =>
        (gathered.set (cluster.settings ++ [⟨flag, some text⟩])).bind fun next => next.read rest
      | some flag, _ => .error (.unusable (.missingValue flag))

end Gathered

/-- The options that the arguments give. -/
def Options.parse (arguments : List String) : Except Refusal Options :=
  match classifyAll arguments with
  | .error fault => .error (.unusable fault)
  | .ok arguments =>
    (Gathered.read {} arguments).bind fun gathered =>
      match gathered.file with
      | none => .error (.unusable .fileRequired)
      | some file =>
        if gathered.extras.isEmpty then .ok { gathered.options with file }
        else .error (.unusable (.unrecognized gathered.extras))

end Utterance.CommandLine
