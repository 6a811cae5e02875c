import Utterance.Error
import Utterance.Grammar.Lowering
import Utterance.Node.Dump
import Utterance.Pattern.Parse
import Utterance.Scalar

/-!
# Failures

Every way in which compiling can fail. Only `user` failures are reported and worked around; the others end the work
that is being done.
-/

namespace Utterance
set_option autoImplicit false

/-- Why compiling failed. -/
inductive Failure where
  /-- the user's input is wrong -/
  | user (error : UserError)
  /-- a numeral has more digits than can be converted -/
  | oversizedNumeral (digits : Nat)
  /-- a group is inside of more others than there is room for -/
  | tooDeep
  /-- a value is no collection of values -/
  | notACollection (value : Scalar)
  /-- a builder was used out of turn -/
  | build (fault : BuildFault)
  /-- a link leads to an index out of a node table -/
  | outOfTable (index : Nat)
  /-- more is wanted than can be made -/
  | capacity (fault : CapacityFault)
  /-- a number has more digits than can be written -/
  | oversizedNumber
  /-- the transliterator failed for a reason of its own -/
  | transliterator (reason : String)
  /-- the program disagrees with itself -/
  | internal (error : InternalError)
  deriving DecidableEq, Repr, Inhabited

namespace Failure

/-- What is said about a number with too many digits; `details` stands in the middle. -/
def digitMessage (details : String) : String :=
  "Exceeds the limit (" ++ toString digitLimit ++ " digits) for integer string conversion" ++ details ++
    "; use sys.set_int_max_str_digits() to increase the limit"

/-- What is said about a failure. -/
def message : Failure → String
  | .user error => error.message
  | .oversizedNumeral digits => digitMessage (": value has " ++ toString digits ++ " digits")
  | .tooDeep => "maximum recursion depth exceeded"
  | .notACollection value => "'" ++ value.kindName ++ "' object is not iterable"
  | .build fault => fault.message
  | .outOfTable index => if isIndexSized index then "list index out of range" else notIndexSizedMessage
  | .capacity fault => fault.message
  | .oversizedNumber => digitMessage ""
  | .transliterator reason => reason
  | .internal error => error.display

/-- The failure to parse. -/
def ofParse : Pattern.ParseError → Failure
  | .rejected error => .user (.pattern error)
  | .oversizedNumeral digits => .oversizedNumeral digits
  | .tooDeep => .tooDeep
  | .build fault => .build fault

/-- The failure to dump. -/
def ofTable : TableFault → Failure
  | .outOfTable index => .outOfTable index
  | .unknownKind kind => .internal ⟨"unknown node kind " ++ Text.quoted kind, "E9999"⟩
  | .unknownRepetition kind => .internal ⟨"unknown repeat kind " ++ Text.quoted kind, "E9999"⟩

/-- The failure to transliterate. -/
def ofTransliteration : TransliterationFault → Failure
  | .unpronounceable error => .user (.unpronounceable error)
  | .other reason => .transliterator reason

/-- The failure to lower. -/
def ofLowering : LoweringFault → Failure
  | .outOfTable index => .outOfTable index
  | .unknownKind kind name => .internal ⟨"unknown node kind " ++ Text.quoted kind ++ " for " ++ name, "E9999"⟩
  | .unknownRepetition kind name => .internal ⟨"unknown repeat kind " ++ Text.quoted kind ++ " for " ++ name, "E9999"⟩
  | .transliteration fault => ofTransliteration fault
  | .capacity fault => .capacity fault
  | .oversizedNumber => .oversizedNumber

end Failure

end Utterance
