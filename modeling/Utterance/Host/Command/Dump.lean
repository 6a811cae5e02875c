import Utterance.Host.Command.Reading

/-!
# Texts as numbers

The octets of a text in rows, each octet or group of octets as a character or a number, with addresses in front; and
texts in an alphabet of sixty-four letters.
-/

namespace Utterance.Host.Command
set_option autoImplicit false

/-! ## Rows of octets -/

/-- How octets are shown: characters, names, or numbers of some size in some base. -/
inductive DumpType where
  | character
  | named
  | number (base : Nat) (size : Nat) (signed : Bool)
  deriving DecidableEq, Inhabited

/-- The octets of one number. -/
def DumpType.size : DumpType → Nat
  | .number _ size _ => size
  | _ => 1

/-- The widths of numbers in some base, by their size. -/
def numberWidth (base size : Nat) (signed : Bool) : Nat :=
  let row : List Nat := match base with
    | 8 => [3, 6, 11, 22]
    | 16 => [2, 4, 8, 16]
    | _ => if signed then [4, 6, 11, 20] else [3, 5, 10, 20]
  match size with
  | 1 => row.getD 0 0
  | 2 => row.getD 1 0
  | 4 => row.getD 2 0
  | _ => row.getD 3 0

/-- The width of one number, without the blank before it. -/
def DumpType.width : DumpType → Nat
  | .number base size signed => numberWidth base size signed
  | _ => 3

/-- The character that an octet is shown as. -/
def dumpedCharacter (c : Char) : Octets :=
  if c = '\x00' then ['\\', '0']
  else
    match controlLetter? c with
    | some letter => ['\\', letter]
    | none => if isPrinted c then [c] else padLeft 3 (digitsOf 8 c.toNat) '0'

/-- The names of the first characters. -/
def controlNames : List String :=
  ["nul", "soh", "stx", "etx", "eot", "enq", "ack", "bel", "bs", "ht", "nl", "vt", "ff", "cr", "so", "si", "dle", "dc1",
   "dc2", "dc3", "dc4", "nak", "syn", "etb", "can", "em", "sub", "esc", "fs", "gs", "rs", "us", "sp"]

/-- The name that an octet is shown as. -/
def dumpedName (c : Char) : Octets :=
  let n := c.toNat % 128
  if n = 127 then "del".toList
  else
    match controlNames[n]? with
    | some name => name.toList
    | none => [Char.ofNat n]

/-- The number of octets, the first of which counts least. -/
def littleNumber (octets : Octets) : Nat :=
  octets.foldr (fun c value => value * 256 + c.toNat) 0

/-- A group of octets as it is shown, without filling. -/
def DumpType.shown (type : DumpType) (group : Octets) : Octets :=
  match type with
  | .character => dumpedCharacter (group.headD '\x00')
  | .named => dumpedName (group.headD '\x00')
  | .number base size signed =>
    let value := littleNumber group
    let bound := Nat.pow 256 size
    if signed && bound ≤ 2 * value then '-' :: digitsOf base (bound - value)
    else if base = 10 then digitsOf base value
    else padLeft (numberWidth base size signed) (digitsOf base value) '0'

/-- Octets in groups; at most `fuel` of them. -/
def groupsOf (size : Nat) : (fuel : Nat) → Octets → List Octets
  | 0, _ => []
  | _, [] => []
  | fuel + 1, text => text.take size :: groupsOf size fuel (text.drop size)

/-- A type with how it is printed: whether the characters themselves follow. -/
structure DumpStyle where
  type : DumpType
  trailer : Bool := false
  deriving DecidableEq, Inhabited

/-- Numbers with blanks before them, as evenly as can be; of `fields` places, those from `index` on. -/
def spread (width padding fields : Nat) : (index left : Nat) → List Octets → Octets
  | _, _, [] => []
  | index, left, text :: rest =>
    let next := padding * (fields - index - 1) / fields
    padLeft (left - next + width) text ++ spread width padding fields (index + 1) next rest

/-- One row in one type: as many fields as octets of the row hold, in `total` columns for `size` octets. -/
def DumpStyle.row (style : DumpStyle) (size total : Nat) (octets : Octets) : Octets :=
  let type := style.type
  let fields := size / type.size
  let padding := total - type.width * fields
  let shown := (groupsOf type.size octets.length octets).map type.shown
  let blanks := (fields - shown.length) * (type.width + padding / fields)
  spread type.width padding fields 0 padding shown ++
    if style.trailer then
      timesOf blanks ' ' ++ "  >".toList ++ octets.map (fun c => if isPrinted c then c else '.') ++ ['<']
    else []

/-- The type that a word means: a letter and a size. -/
def dumpType? (word : Octets) : Option DumpType :=
  match word with
  | 'c' :: _ => some .character
  | 'a' :: _ => some .named
  | letter :: size =>
    let size := match size with
      | [] => some 4
      | ['C'] => some 1
      | ['S'] => some 2
      | ['I'] => some 4
      | ['L'] => some 8
      | _ => (natural? size).filter fun size => size = 1 || size = 2 || size = 4 || size = 8
    match letter, size with
    | 'o', some size => some (.number 8 size false)
    | 'x', some size => some (.number 16 size false)
    | 'u', some size => some (.number 10 size false)
    | 'd', some size => some (.number 10 size true)
    | _, _ => none
  | [] => none

/-- The types of a switch's value; at most `fuel` of them. -/
def dumpTypes? : (fuel : Nat) → Octets → Option (List DumpStyle)
  | 0, _ => some []
  | _, [] => some []
  | fuel + 1, letter :: rest =>
    let size := if letter = 'c' || letter = 'a' then []
      else if (rest.head?).any (isDigitOf 10) then rest.takeWhile (isDigitOf 10)
      else rest.take (if (rest.head?).any (fun c => "CSIL".toList.contains c) then 1 else 0)
    let rest := rest.drop size.length
    let trailer := rest.head? = some 'z'
    match dumpType? (letter :: size), dumpTypes? fuel (if trailer then rest.tail else rest) with
    | some type, some more => some (⟨type, trailer⟩ :: more)
    | _, _ => none

/-- The switches of `od`. -/
def odSwitches : List Switch :=
  [⟨'A', ["address-radix"], true⟩, ⟨'t', ["format"], true⟩, ⟨'N', ["read-bytes"], true⟩, ⟨'j', ["skip-bytes"], true⟩,
   ⟨'w', ["width"], true⟩, ⟨'v', ["output-duplicates"], false⟩, ⟨'a', [], false⟩, ⟨'b', [], false⟩, ⟨'c', [], false⟩,
   ⟨'d', [], false⟩, ⟨'o', [], false⟩, ⟨'x', [], false⟩, ⟨'i', [], false⟩, ⟨'l', [], false⟩, ⟨'s', [], false⟩]

/-- The types that a switch asks for. -/
def switchTypes? (switch : GivenSwitch) : Option (List DumpStyle) :=
  match switch.letter with
  | 't' => dumpTypes? switch.value.length switch.value
  | 'a' => some [⟨.named, false⟩]
  | 'b' => some [⟨.number 8 1 false, false⟩]
  | 'c' => some [⟨.character, false⟩]
  | 'd' => some [⟨.number 10 2 false, false⟩]
  | 'o' => some [⟨.number 8 2 false, false⟩]
  | 'x' => some [⟨.number 16 2 false, false⟩]
  | 'i' => some [⟨.number 10 4 true, false⟩]
  | 's' => some [⟨.number 10 2 true, false⟩]
  | 'l' => some [⟨.number 10 8 true, false⟩]
  | _ => some []

/-- An address in front of a row. -/
def address (radix : Char) (n : Nat) : Octets :=
  match radix with
  | 'n' => []
  | 'd' => padLeft 7 (digitsOf 10 n) '0'
  | 'x' => padLeft 6 (digitsOf 16 n) '0'
  | _ => padLeft 7 (digitsOf 8 n) '0'

/-- The rows of a text from an address on. Rows equal to the one before are shown as one star. -/
def dumpRows (types : List DumpStyle) (radix : Char) (width : Nat) (all : Bool) : (start : Nat) →
    (before : Option Octets) → (starred : Bool) → List Octets → List Octets
  | _, _, _, [] => []
  | start, before, starred, row :: rest =>
    if !all && some row = before && (!rest.isEmpty || row.length = width) then
      (if starred then [] else [['*']]) ++ dumpRows types radix width all (start + row.length) before true rest
    else
      let total := (types.map fun style => (style.type.width + 1) * (width / style.type.size)).foldl max 0
      let lines := types.zipIdx.map fun (style, i) =>
        (if i = 0 then address radix start else timesOf (address radix start).length ' ') ++ style.row width total row
      lines ++ dumpRows types radix width all (start + row.length) (some row) false rest

/-- The octets of texts in rows. -/
def od : Call → Outcome := withSwitches odSwitches 1 fun call given =>
  match given.switches.mapM switchTypes? with
  | none => call.fail 1 (octets "invalid type string " ++ quotedWord ((given.value? 't').getD []))
  | some types =>
    let types := if types.flatten.isEmpty then [⟨.number 8 2 false, false⟩] else types.flatten
    let radix := ((given.value? 'A').getD ['o']).headD 'o'
    let sources := call.sources given.operands
    let complaints := sources.filterMap fun source => match source.contents with
      | .ok _ => none
      | .error target => some (unreadable call source.label target)
    let skip := ((given.value? 'j').bind natural?).getD 0
    let text := (sources.flatMap fun source => source.contents.toOption.getD []).drop skip
    let text := match (given.value? 'N').bind natural? with
      | some most => text.take most
      | none => text
    let width := ((given.value? 'w').bind natural?).getD 16
    let rows := dumpRows types radix width (given.has 'v') skip none false (groupsOf width text.length text)
    let last := if radix = 'n' then [] else [address radix (skip + text.length)]
    let call := call.afterReading given.operands
    let opened := complaints.length < sources.length || sources.any fun source => match source.contents with
      | .error (.directory _) => true
      | _ => false
    ended call (complaints ++ if opened then [(.stdout, unlines (rows ++ last))] else [])

/-! ## Sixty-four letters -/

/-- The letters of the alphabet. -/
def alphabet64 : Octets :=
  "ABCDEFGHIJKLMNOPQRSTUVWXYZabcdefghijklmnopqrstuvwxyz0123456789+/".toList

/-- Three octets as four letters; `fuel` bounds the groups. -/
def encode64 : (fuel : Nat) → Octets → Octets
  | 0, _ => []
  | fuel + 1, text =>
    let letter (n : Nat) : Char := alphabet64.getD (n % 64) '='
    match text with
    | [] => []
    | [a] => [letter (a.toNat / 4), letter (a.toNat * 16), '=', '=']
    | [a, b] => [letter (a.toNat / 4), letter (a.toNat * 16 + b.toNat / 16), letter (b.toNat * 4), '=']
    | a :: b :: c :: rest =>
      letter (a.toNat / 4) :: letter (a.toNat * 16 + b.toNat / 16) :: letter (b.toNat * 4 + c.toNat / 64) ::
        letter c.toNat :: encode64 fuel rest

/-- Four letters as three octets, and whether all was understood; `fuel` bounds the groups. -/
def decode64 : (fuel : Nat) → Octets → Octets × Bool
  | 0, _ => ([], true)
  | fuel + 1, text =>
    let value (c : Char) : Option Nat := (alphabet64.zipIdx.find? fun member => member.1 == c).map Prod.snd
    let octet (n : Nat) : Char := Char.ofNat (n % 256)
    match text with
    | [] => ([], true)
    | a :: b :: c :: d :: rest =>
      match value a, value b, value c, value d with
      | some a, some b, some c, some d =>
        let (more, good) := decode64 fuel rest
        (octet (a * 4 + b / 16) :: octet (b * 16 + c / 4) :: octet (c * 64 + d) :: more, good)
      | some a, some b, some c, none =>
        if d = '=' then ([octet (a * 4 + b / 16), octet (b * 16 + c / 4)], rest.isEmpty)
        else ([octet (a * 4 + b / 16), octet (b * 16 + c / 4)], false)
      | some a, some b, none, _ => ([octet (a * 4 + b / 16)], c = '=' && d = '=' && rest.isEmpty)
      | _, _, _, _ => ([], false)
    | _ => ([], false)

/-- A text in sixty-four letters, or back. -/
def base64 : Call → Outcome :=
  withSwitches [⟨'d', ["decode"], false⟩, ⟨'w', ["wrap"], true⟩, ⟨'i', ["ignore-garbage"], false⟩] 1 fun call given =>
    match call.sources given.operands with
    | [source] =>
      let call := call.afterReading given.operands
      match source.contents with
      | .error (.directory _) => call.fail 1 (octets "read error: Is a directory")
      | .error target => ended call [unreadable call source.label target]
      | .ok text =>
        if given.has 'd' then
          let (decoded, good) := decode64 text.length (text.filter (· != '\n'))
          ended call ((.stdout, decoded) :: if good then [] else [(.stderr, call.complaint (octets "invalid input"))])
        else
          let encoded := encode64 text.length text
          let width := ((given.value? 'w').bind natural?).getD 76
          if width = 0 then call.done 0 encoded else call.done 0 (unlines (groupsOf width encoded.length encoded))
    | _ => call.misused 1 (octets "extra operand " ++ quotedWord (given.operands.getD 1 []))

end Utterance.Host.Command
