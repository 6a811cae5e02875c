import Utterance.Host.Call

/-!
# Switches of commands

Switches are single letters after a dash, which may share it, or words after two dashes, which may be shortened. A
switch with a value takes the rest of its argument or the next one. Switches and operands may be mixed; after two
dashes there are only operands.
-/

namespace Utterance.Host
set_option autoImplicit false

/-- A switch: its letter, its long names and whether it has a value. -/
structure Switch where
  letter : Char
  long : List String := []
  valued : Bool := false
  deriving Inhabited

/-- A switch that was given, and its value. -/
structure GivenSwitch where
  letter : Char
  value : Octets := []
  deriving Inhabited

/-- The switches that were given, in order, and the operands. -/
structure Given where
  switches : List GivenSwitch := []
  operands : List Octets := []
  deriving Inhabited

namespace Given

/-- Whether a switch was given. -/
def has (given : Given) (letter : Char) : Bool :=
  given.switches.any fun switch => switch.letter == letter

/-- The value of a switch, the last one if it was given more than once. -/
def value? (given : Given) (letter : Char) : Option Octets :=
  (given.switches.reverse.find? fun switch => switch.letter == letter).map GivenSwitch.value

/-- The last of some letters that was given. -/
def last? (given : Given) (letters : List Char) : Option Char :=
  (given.switches.reverse.find? fun switch => letters.contains switch.letter).map GivenSwitch.letter

/-- The switches with one more before them. -/
def withSwitch (switch : GivenSwitch) (given : Given) : Given :=
  { given with switches := switch :: given.switches }

/-- The operands with one more before them. -/
def withOperand (operand : Octets) (given : Given) : Given :=
  { given with operands := operand :: given.operands }

end Given

/-- The switches of one argument: those that are complete, and one that still needs its value. -/
def clusterSwitches (known : List Switch) : Octets → Except Octets (List GivenSwitch × Option Char)
  | [] => .ok ([], none)
  | letter :: rest =>
    match known.find? fun switch => switch.letter == letter with
    | none => .error (octets "invalid option -- '" ++ [letter, '\''])
    | some switch =>
      if switch.valued then
        .ok (if rest.isEmpty then ([], some letter) else ([⟨letter, rest⟩], none))
      else (clusterSwitches known rest).map fun (more, pending) => (⟨letter, []⟩ :: more, pending)

/-- The switches that a long name may mean, each with its full name. -/
def longCandidates (known : List Switch) (name : Octets) : List (String × Switch) :=
  let all := known.flatMap fun switch => switch.long.map fun long => (long, switch)
  match all.filter fun candidate => candidate.1.toList == name with
  | [] => all.filter fun candidate => name.isPrefixOf candidate.1.toList
  | exact => exact

/-- The switch that a long argument gives, without its dashes, and whether it still needs its value. -/
def longSwitch (known : List Switch) (text : Octets) : Except Octets (List GivenSwitch × Option (Char × String)) :=
  let name := text.takeWhile (· != '=')
  let value := (text.dropWhile (· != '=')).drop 1
  let hasValue := text.contains '='
  match longCandidates known name with
  | [] => .error (octets "unrecognized option '--" ++ text ++ ['\''])
  | (full, switch) :: others =>
    if others.any fun other => other.2.letter != switch.letter then
      .error (octets "option '--" ++ text ++ octets "' is ambiguous; possibilities:" ++
        ((full, switch) :: others).flatMap fun candidate => octets (" '--" ++ candidate.1 ++ "'"))
    else if switch.valued then
      .ok (if hasValue then ([⟨switch.letter, value⟩], none) else ([], some (switch.letter, full)))
    else if hasValue then .error (octets ("option '--" ++ full ++ "' doesn't allow an argument"))
    else .ok ([⟨switch.letter, []⟩], none)

/-- The switches and operands among arguments, or what is wrong with them. With `mixed` switches may follow operands. -/
def readSwitches (known : List Switch) (mixed : Bool) : List Octets → Except Octets Given
  | [] => .ok {}
  | ['-', '-'] :: rest => .ok { operands := rest }
  | ('-' :: '-' :: text) :: rest =>
    match longSwitch known text, rest with
    | .error text, _ => .error text
    | .ok (given, none), rest => (readSwitches known mixed rest).map fun more => given.foldr Given.withSwitch more
    | .ok (_, some (letter, _)), value :: rest =>
      (readSwitches known mixed rest).map (Given.withSwitch ⟨letter, value⟩)
    | .ok (_, some (_, full)), [] => .error (octets ("option '--" ++ full ++ "' requires an argument"))
  | ('-' :: letter :: letters) :: rest =>
    match clusterSwitches known (letter :: letters), rest with
    | .error text, _ => .error text
    | .ok (given, none), rest => (readSwitches known mixed rest).map fun more => given.foldr Given.withSwitch more
    | .ok (given, some letter), value :: rest =>
      (readSwitches known mixed rest).map fun more =>
        given.foldr Given.withSwitch (Given.withSwitch ⟨letter, value⟩ more)
    | .ok (_, some letter), [] => .error (octets "option requires an argument -- '" ++ [letter, '\''])
  | operand :: rest =>
    if mixed then (readSwitches known mixed rest).map (Given.withOperand operand)
    else .ok { operands := operand :: rest }

/-- A command with switches: what it does with them, and its status if they are wrong. -/
def withSwitches (known : List Switch) (status : Nat) (work : Call → Given → Outcome) (call : Call) : Outcome :=
  match readSwitches known true call.arguments with
  | .error text => call.misused status text
  | .ok given => work call given

end Utterance.Host
