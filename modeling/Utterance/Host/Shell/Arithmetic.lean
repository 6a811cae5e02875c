import Utterance.Host.Shell.Script

/-!
# Arithmetic

Expressions over whole numbers of sixty-four bits, with variables that can be set. A sum that does not fit is taken
modulo the greatest number of bits.
-/

namespace Utterance.Host.Shell.Arithmetic
set_option autoImplicit false

/-- The number of values. -/
def values : Nat := 18446744073709551616

/-- A number as one of the values. -/
def wrap (n : Int) : Int :=
  Int.bmod n values

/-- An expression. -/
inductive Expr where
  | number (n : Int)
  | name (x : Octets)
  | unary (operator : Char) (operand : Expr)
  | binary (operator : String) (left right : Expr)
  | choice (condition whenTrue whenFalse : Expr)
  /-- with an operator the value is combined with the former one -/
  | assign (x : Octets) (operator : Option String) (value : Expr)
  deriving DecidableEq, Repr, Inhabited

/-! ## Tokens -/

/-- A token of an expression. -/
inductive Token where
  | number (n : Int)
  | name (x : Octets)
  | operator (text : String)
  deriving DecidableEq, Repr, Inhabited

/-- The operators of more than one character, longer ones first. -/
def longOperators : List String :=
  ["<<=", ">>=", "<<", ">>", "<=", ">=", "==", "!=", "&&", "||", "+=", "-=", "*=", "/=", "%=", "&=", "|=", "^="]

/-- The number that a text starts with, as large as there is one, and what follows. -/
def numberFrom (text : Octets) : Int × Octets :=
  let (base, digits) := match text with
    | '0' :: x :: c :: rest =>
      if (x = 'x' || x = 'X') && isDigitOf 16 c then (16, c :: rest) else (8, text)
    | '0' :: _ => (8, text)
    | _ => (10, text)
  let n := numberOf base (digits.takeWhile (isDigitOf base))
  (if values / 2 ≤ n then ((values / 2 - 1 : Nat) : Int) else (n : Int), digits.dropWhile (isDigitOf base))

/-- The tokens of an expression, at most `fuel` of them. -/
def tokens : (fuel : Nat) → Octets → List Token
  | 0, _ => []
  | _, [] => []
  | fuel + 1, c :: rest =>
    if isSpace c then tokens fuel rest
    else if c.isDigit then
      let (n, rest) := numberFrom (c :: rest)
      .number n :: tokens fuel rest
    else if isNameStart c then
      .name ((c :: rest).takeWhile isNameLetter) :: tokens fuel ((c :: rest).dropWhile isNameLetter)
    else
      match longOperators.find? fun text => text.toList.isPrefixOf (c :: rest) with
      | some text => .operator text :: tokens fuel ((c :: rest).drop text.length)
      | none => .operator (String.ofList [c]) :: tokens fuel rest

/-! ## Reading -/

/-- How tightly an operator binds; zero for what is no operator between two operands. -/
def strength : String → Nat
  | "*" => 10
  | "/" => 10
  | "%" => 10
  | "+" => 9
  | "-" => 9
  | "<<" => 8
  | ">>" => 8
  | "<" => 7
  | "<=" => 7
  | ">" => 7
  | ">=" => 7
  | "==" => 6
  | "!=" => 6
  | "&" => 5
  | "^" => 4
  | "|" => 3
  | "&&" => 2
  | "||" => 1
  | _ => 0

/-- The operator that is combined with an assignment. -/
def assignOperator? : String → Option (Option String)
  | "=" => some none
  | "+=" => some (some "+")
  | "-=" => some (some "-")
  | "*=" => some (some "*")
  | "/=" => some (some "/")
  | "%=" => some (some "%")
  | "&=" => some (some "&")
  | "|=" => some (some "|")
  | "^=" => some (some "^")
  | "<<=" => some (some "<<")
  | ">>=" => some (some ">>")
  | _ => none

/-- An expression and the tokens after it, or what was expected. -/
abbrev Parsed := Except String (Expr × List Token)

mutual

/-- An expression that may be an assignment. -/
def assignment : (fuel : Nat) → List Token → Parsed
  | 0, _ => .error "expecting primary"
  | fuel + 1, .name x :: .operator text :: rest =>
    match assignOperator? text with
    | some operator => do
      let (value, rest) ← assignment fuel rest
      return (.assign x operator value, rest)
    | none => conditional fuel (.name x :: .operator text :: rest)
  | fuel + 1, tokens => conditional fuel tokens

/-- An expression that may be a choice. -/
def conditional : (fuel : Nat) → List Token → Parsed
  | 0, _ => .error "expecting primary"
  | fuel + 1, tokens => do
    let (first, rest) ← operand fuel tokens
    let (condition, rest) ← further fuel 1 first rest
    match rest with
    | .operator "?" :: rest =>
      let (whenTrue, rest) ← assignment fuel rest
      match rest with
      | .operator ":" :: rest =>
        let (whenFalse, rest) ← conditional fuel rest
        return (.choice condition whenTrue whenFalse, rest)
      | _ => .error "expecting ':'"
    | rest => return (condition, rest)

/-- An expression after its first operand, as far as operators bind at least so tightly. -/
def further : (fuel : Nat) → (least : Nat) → Expr → List Token → Parsed
  | 0, _, _, _ => .error "expecting primary"
  | fuel + 1, least, left, .operator text :: rest =>
    if strength text < least || strength text = 0 then .ok (left, .operator text :: rest)
    else do
      let (first, rest) ← operand fuel rest
      let (right, rest) ← further fuel (strength text + 1) first rest
      further fuel least (.binary text left right) rest
  | _, _, left, rest => .ok (left, rest)

/-- An operand. -/
def operand : (fuel : Nat) → List Token → Parsed
  | 0, _ => .error "expecting primary"
  | _, .number n :: rest => .ok (.number n, rest)
  | _, .name x :: rest => .ok (.name x, rest)
  | fuel + 1, .operator text :: rest =>
    match text with
    | "(" => do
      let (inner, rest) ← assignment fuel rest
      match rest with
      | .operator ")" :: rest => return (inner, rest)
      | _ => .error "expecting ')'"
    | "-" => sign fuel '-' rest
    | "+" => sign fuel '+' rest
    | "!" => sign fuel '!' rest
    | "~" => sign fuel '~' rest
    | _ => .error "expecting primary"
  | _, [] => .error "expecting primary"

/-- An operand after a sign. -/
def sign : (fuel : Nat) → Char → List Token → Parsed
  | 0, _, _ => .error "expecting primary"
  | fuel + 1, operator, rest => do
    let (inner, rest) ← operand fuel rest
    return (.unary operator inner, rest)

end

/-- The expression that a text is. -/
def parse (text : Octets) : Except String Expr :=
  let list := tokens (text.length + 1) text
  match assignment (8 * list.length + 8) list with
  | .error text => .error text
  | .ok (expression, []) => .ok expression
  | .ok (_, _) => .error "expecting EOF"

/-! ## Values -/

/-- Bits as a natural number. -/
def bitsOf (n : Int) : Nat :=
  (n % (values : Int)).toNat

/-- A truth value as a number. -/
def truth (b : Bool) : Int :=
  if b then 1 else 0

/-- The value of an operator, if there is one. -/
def combine (operator : String) (a b : Int) : Option Int :=
  match operator with
  | "*" => some (wrap (a * b))
  | "/" => if b = 0 then none else some (wrap (Int.tdiv a b))
  | "%" => if b = 0 then none else some (wrap (Int.tmod a b))
  | "+" => some (wrap (a + b))
  | "-" => some (wrap (a - b))
  | "<<" => some (wrap (a * (Nat.pow 2 (bitsOf b % 64) : Nat)))
  | ">>" => some (Int.fdiv a (Nat.pow 2 (bitsOf b % 64) : Nat))
  | "<" => some (truth (a < b))
  | "<=" => some (truth (a ≤ b))
  | ">" => some (truth (b < a))
  | ">=" => some (truth (b ≤ a))
  | "==" => some (truth (a = b))
  | "!=" => some (truth (a != b))
  | "&" => some (wrap (Nat.land (bitsOf a) (bitsOf b) : Nat))
  | "^" => some (wrap (Nat.xor (bitsOf a) (bitsOf b) : Nat))
  | "|" => some (wrap (Nat.lor (bitsOf a) (bitsOf b) : Nat))
  | _ => none

/-- Where an expression finds and sets variables, and what is done about a division by zero. -/
structure Setting (m : Type → Type) where
  read : Octets → m Int
  write : Octets → Int → m Unit
  undefined : m Int

/-- The value of an expression. The second operand of a logical operator is looked at only if it matters. -/
def value {m : Type → Type} [Monad m] (setting : Setting m) : Expr → m Int
  | .number n => pure n
  | .name x => setting.read x
  | .unary operator operand => do
    let n ← value setting operand
    return match operator with
      | '-' => wrap (-n)
      | '!' => truth (n = 0)
      | '~' => -n - 1
      | _ => n
  | .binary operator left right => do
    let a ← value setting left
    if operator = "&&" then
      if a = 0 then return 0 else return truth ((← value setting right) != 0)
    else if operator = "||" then
      if a != 0 then return 1 else return truth ((← value setting right) != 0)
    else
      match combine operator a (← value setting right) with
      | some n => return n
      | none => setting.undefined
  | .choice condition whenTrue whenFalse => do
    if (← value setting condition) != 0 then value setting whenTrue else value setting whenFalse
  | .assign x operator expression => do
    let n ← value setting expression
    let result ← match operator with
      | none => pure n
      | some operator =>
        match combine operator (← setting.read x) n with
        | some n => pure n
        | none => setting.undefined
    setting.write x result
    return result

/-- A number as it is written. -/
def shown (n : Int) : Octets :=
  if n < 0 then '-' :: digitsOf 10 n.natAbs else digitsOf 10 n.natAbs

/-- The number that the value of a variable is. Nothing at all is zero. -/
def number? (text : Octets) : Option Int :=
  let text := ((text.dropWhile isSpace).reverse.dropWhile isSpace).reverse
  let (negative, digits) := match text with
    | '-' :: rest => (true, rest)
    | '+' :: rest => (false, rest)
    | rest => (false, rest)
  if text.isEmpty then some 0
  else if !(digits.head?.any Char.isDigit) then none
  else
    match numberFrom digits with
    | (n, []) => some (if negative then -n else n)
    | _ => none

end Utterance.Host.Shell.Arithmetic
