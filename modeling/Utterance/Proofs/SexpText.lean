import Utterance.Proofs.Names
import Utterance.Sexp

/-!
# Reading an S-expression off its text

An expression can be read back from its text (`read_render`), as long as every list in it ends with the empty list and
every symbol is a word: nothing in it ends a symbol, and it does not begin like a list, a text or a number. The reader
looks at each character once. It keeps what it has read of the lists that are still open, and puts every expression that
ends in front of the others of its list, so that an expression is read wherever it stands (`run_write`).
-/

namespace Utterance.Sexp
set_option autoImplicit false

/-- What an expression is, apart from its content. -/
inductive Kind where
  | list
  | symbol
  | text
  | number
  deriving DecidableEq

/-- The kind of the expressions that begin with a character. -/
def Kind.ofFirst (c : Char) : Kind :=
  if c = '(' then .list
  else if c = '"' then .text
  else if c = '-' || c.isDigit then .number
  else .symbol

/-- The character ends a symbol or a number. -/
def isBreak (c : Char) : Bool := c == ' ' || c == ')'

/-- No character of the name ends it, and it begins like a symbol. -/
def IsWord (name : List Char) : Prop :=
  (∀ c ∈ name, isBreak c = false) ∧ ∃ c ∈ name.head?, Kind.ofFirst c = .symbol

-- The members are tested one by one; a search for an instance may come up with a test of all characters there are.
instance (name : List Char) : Decidable (IsWord name) :=
  decidable_of_iff ((name.all fun c => !isBreak c) && name.head?.any fun c => decide (Kind.ofFirst c = .symbol)) (by
    simp [IsWord, Option.any_eq_true])

/-- Every symbol is a word, and every list ends with the empty list. With `inside`, the expression is the rest of a
list. -/
def IsReadable : (inside : Bool) → Sexp → Prop
  | _, .nil => True
  | _, .cons head tail => head.IsReadable false ∧ tail.IsReadable true
  | inside, .symbol name => inside = false ∧ IsWord name.toList
  | inside, .text _ => inside = false
  | inside, .number _ => inside = false

/-- The text may stand after an expression. With `inside`, after the rest of a list, which has to be closed. -/
def Follows (rest : List Char) (inside : Bool) : Prop :=
  if inside then rest.head? = some ')' else ∀ c ∈ rest.head?, isBreak c

/-! ## The reader -/

/-- The character that a letter after a backslash stands for. -/
def meant (letter : Char) : Char :=
  if letter = 'b' then '\x08'
  else if letter = 'f' then '\x0c'
  else if letter = 'n' then '\n'
  else if letter = 'r' then '\r'
  else if letter = 't' then '\t'
  else letter

/-- What the reader is in the middle of. -/
inductive Mode where
  | between
  | word (letters : List Char)
  | text (letters : List Char)
  /-- right after a backslash in a text -/
  | escape (letters : List Char)

/-- The members of the innermost open list, the last one first, and those of the lists around it. -/
structure Reader where
  mode : Mode
  members : List Sexp
  around : List (List Sexp)

/-- The number with a sign and digits. -/
def numberOf (letters : List Char) : Int :=
  if letters.head? = some '-' then -(Nat.ofDigitChars 10 letters.tail 0 : Int) else Nat.ofDigitChars 10 letters 0

/-- The number or the symbol that a word is. -/
def ofWord (letters : List Char) : Sexp :=
  if letters.head?.map Kind.ofFirst = some .number then .number (numberOf letters) else .symbol (String.ofList letters)

/-- The list of the members, which stand in reverse order, before others. -/
def closed (members : List Sexp) (rest : Sexp) : Sexp :=
  members.foldl (fun tail head => .cons head tail) rest

namespace Reader

/-- Adds an expression that has ended. -/
def put (reader : Reader) (expression : Sexp) : Reader :=
  ⟨.between, expression :: reader.members, reader.around⟩

/-- Reads a character that is not part of an atom. -/
def enter (reader : Reader) (c : Char) : Option Reader :=
  if c = ' ' then some reader
  else if c = '(' then some ⟨.between, [], reader.members :: reader.around⟩
  else if c = ')' then
    match reader.around with
    | [] => none
    | members :: around => some ⟨.between, closed reader.members .nil :: members, around⟩
  else if c = '"' then some { reader with mode := .text [] }
  else some { reader with mode := .word [c] }

/-- Reads a character. -/
def step (reader : Reader) (c : Char) : Option Reader :=
  match reader.mode with
  | .between => reader.enter c
  | .word letters =>
    if isBreak c then (reader.put (ofWord letters)).enter c else some { reader with mode := .word (letters ++ [c]) }
  | .text letters =>
    if c = '"' then some (reader.put (.text (String.ofList letters)))
    else if c = '\\' then some { reader with mode := .escape letters }
    else some { reader with mode := .text (letters ++ [c]) }
  | .escape letters => some { reader with mode := .text (letters ++ [meant c]) }

/-- The expression that was read, if there is one only and no list is open. -/
def finish (reader : Reader) : Option Sexp :=
  match reader.mode, reader.members, reader.around with
  | .between, [expression], [] => some expression
  | .word letters, [], [] => some (ofWord letters)
  | _, _, _ => none

/-- Reads the rest of a text. -/
def run : Reader → List Char → Option Sexp
  | reader, [] => reader.finish
  | reader, c :: rest => (reader.step c).bind fun next => next.run rest

end Reader

/-- The expression of a text. -/
def read (text : List Char) : Option Sexp :=
  Reader.run ⟨.between, [], []⟩ text

/-! ## Atoms -/

theorem textChar_cases (c : Char) :
    (textChar c = [c] ∧ c ≠ '\\' ∧ c ≠ '"') ∨ ∃ letter, textChar c = ['\\', letter] ∧ meant letter = c := by
  unfold textChar
  split
  · rename_i backslash
    exact .inr ⟨'\\', rfl, backslash.symm⟩
  rename_i noBackslash
  split
  · rename_i quote
    exact .inr ⟨'"', rfl, quote.symm⟩
  rename_i noQuote
  split
  · rename_i backspace
    exact .inr ⟨'b', rfl, backspace.symm⟩
  split
  · rename_i feed
    exact .inr ⟨'f', rfl, feed.symm⟩
  split
  · rename_i line
    exact .inr ⟨'n', rfl, line.symm⟩
  split
  · rename_i turn
    exact .inr ⟨'r', rfl, turn.symm⟩
  split
  · rename_i tab
    exact .inr ⟨'t', rfl, tab.symm⟩
  · exact .inl ⟨rfl, noBackslash, noQuote⟩

theorem not_isBreak_of_isDigit {c : Char} (digit : c.isDigit) : isBreak c = false := by
  cases broken : isBreak c with
  | false => rfl
  | true =>
    have known : c = ' ' ∨ c = ')' := by simpa [isBreak] using broken
    obtain rfl | rfl := known <;> exact absurd digit (by decide)

theorem not_isBreak_of_mem_number {number : Int} {c : Char} (member : c ∈ (toString number).toList) :
    isBreak c = false := by
  obtain rfl | digit := Name.isDigit_of_mem_number member
  · rfl
  · exact not_isBreak_of_isDigit digit

theorem ofFirst_of_mem_number {number : Int} {c : Char} (member : c ∈ (toString number).toList) :
    Kind.ofFirst c = .number := by
  obtain rfl | digit := Name.isDigit_of_mem_number member
  · rfl
  · have noList : c ≠ '(' := by
      rintro rfl
      exact absurd digit (by decide)
    have noText : c ≠ '"' := by
      rintro rfl
      exact absurd digit (by decide)
    simp [Kind.ofFirst, noList, noText, digit]

theorem numberOf_toString (number : Int) : numberOf (toString number).toList = number := by
  rw [Int.toString_eq_repr, Int.repr_eq_if]
  split
  · rename_i natural
    have noSign : (Nat.toDigits 10 number.toNat).head? ≠ some '-' :=
      fun first => Name.minus_notMem_toDigits _ (List.mem_of_head? first)
    rw [Nat.repr_eq_ofList_toDigits, String.toList_ofList, numberOf, if_neg noSign, Nat.ofDigitChars_ten_toDigits]
    omega
  · rename_i negative
    have written : ("-" ++ (-number).toNat.repr).toList = '-' :: Nat.toDigits 10 (-number).toNat := by
      simp [Nat.repr_eq_ofList_toDigits]
    rw [written, numberOf, List.head?_cons, if_pos rfl, List.tail_cons, Nat.ofDigitChars_ten_toDigits]
    omega

theorem ofWord_number (number : Int) : ofWord (toString number).toList = .number number := by
  obtain ⟨c, more, written⟩ := List.exists_cons_of_ne_nil (Name.number_ne_nil number)
  have member : c ∈ (toString number).toList := written ▸ List.mem_cons_self
  have isNumber : (toString number).toList.head?.map Kind.ofFirst = some .number := by
    rw [written, List.head?_cons, Option.map_some, ofFirst_of_mem_number member]
  rw [ofWord, if_pos isNumber, numberOf_toString]

theorem ofWord_symbol {name : String} (isWord : IsWord name.toList) : ofWord name.toList = .symbol name := by
  obtain ⟨_, c, first, isSymbol⟩ := isWord
  have other : name.toList.head?.map Kind.ofFirst ≠ some .number := by
    rw [Option.mem_def.1 first, Option.map_some, isSymbol]
    decide
  rw [ofWord, if_neg other, String.ofList_toList]

/-! ## Expressions -/

/-- What stands after the last member of a list. -/
def closing (inside : Bool) (rest : List Char) : List Char :=
  if inside then rest else ')' :: rest

theorem write_cons_append (head tail : Sexp) (inside : Bool) (rest : List Char) :
    (cons head tail).write inside ++ rest =
      (if inside then ' ' else '(') :: (head.write false ++ (tail.write true ++ closing inside rest)) := by
  cases inside <;> simp [write, closing]

theorem follows_write {tail : Sexp} {rest : List Char} (readable : tail.IsReadable true) (follows : Follows rest true) :
    Follows (tail.write true ++ rest) false := by
  intro c first
  cases tail with
  | nil =>
    have closed : rest.head? = some ')' := follows
    rw [write, if_pos rfl, List.nil_append, closed] at first
    obtain rfl := Option.some.inj first
    rfl
  | cons head tail =>
    obtain rfl : ' ' = c := by simpa [write] using first
    rfl
  | _ => simp [IsReadable] at readable

namespace Reader

variable {members : List Sexp} {around : List (List Sexp)}

/-- A word ends where the text ends or a break stands. -/
theorem run_word (letters : List Char) {more rest : List Char} (unbroken : ∀ c ∈ more, isBreak c = false)
    (follows : Follows rest false) :
    run ⟨.word letters, members, around⟩ (more ++ rest) =
      run ⟨.between, ofWord (letters ++ more) :: members, around⟩ rest := by
  induction more generalizing letters with
  | nil =>
    rw [List.append_nil, List.nil_append]
    cases rest with
    | nil =>
      cases members with
      | nil => cases around <;> rfl
      | cons first others => rfl
    | cons c rest =>
      have broken : isBreak c = true := follows c rfl
      simp only [run, step, broken, if_true]
      rfl
  | cons c more ih =>
    rw [List.forall_mem_cons] at unbroken
    have step : step ⟨.word letters, members, around⟩ c = some ⟨.word (letters ++ [c]), members, around⟩ := by
      simp only [step, unbroken.1]
      rfl
    rw [List.cons_append, run, step, Option.bind_some, ih _ unbroken.2, List.append_assoc, List.singleton_append]

/-- A word that begins like neither a list nor a text is read. -/
theorem run_letters {c : Char} {more rest : List Char} (unbroken : ∀ d ∈ c :: more, isBreak d = false)
    (noList : Kind.ofFirst c ≠ .list) (noText : Kind.ofFirst c ≠ .text) (follows : Follows rest false) :
    run ⟨.between, members, around⟩ (c :: more ++ rest) = run ⟨.between, ofWord (c :: more) :: members, around⟩ rest := by
  rw [List.forall_mem_cons] at unbroken
  have noSpace : c ≠ ' ' := by
    rintro rfl
    cases unbroken.1
  have noClosing : c ≠ ')' := by
    rintro rfl
    cases unbroken.1
  have noOpening : c ≠ '(' := by
    rintro rfl
    exact noList rfl
  have noQuote : c ≠ '"' := by
    rintro rfl
    exact noText rfl
  have begins : step ⟨.between, members, around⟩ c = some ⟨.word [c], members, around⟩ := by
    simp only [step, enter, noSpace, noClosing, noOpening, noQuote, if_false]
  rw [List.cons_append, run, begins, Option.bind_some, run_word [c] unbroken.2 follows, List.singleton_append]

theorem run_text (letters value rest : List Char) :
    run ⟨.text letters, members, around⟩ (value.flatMap textChar ++ '"' :: rest) =
      run ⟨.between, .text (String.ofList (letters ++ value)) :: members, around⟩ rest := by
  induction value generalizing letters with
  | nil =>
    rw [List.append_nil]
    rfl
  | cons c value ih =>
    rw [List.flatMap_cons, List.append_assoc]
    obtain ⟨plain, noBackslash, noQuote⟩ | ⟨letter, escaped, stands⟩ := textChar_cases c
    · have step : step ⟨.text letters, members, around⟩ c = some ⟨.text (letters ++ [c]), members, around⟩ := by
        simp only [step, noBackslash, noQuote, if_false]
      rw [plain, List.singleton_append, run, step, Option.bind_some, ih, List.append_assoc, List.singleton_append]
    · have steps : run ⟨.text letters, members, around⟩ ('\\' :: letter :: (value.flatMap textChar ++ '"' :: rest)) =
          run ⟨.text (letters ++ [meant letter]), members, around⟩ (value.flatMap textChar ++ '"' :: rest) := rfl
      rw [escaped, List.cons_append, List.singleton_append, steps, stands, ih, List.append_assoc, List.singleton_append]

theorem closed_cons (head : Sexp) (others : List Sexp) (rest : Sexp) :
    closed (head :: others) rest = closed others (.cons head rest) := rfl

/-- A readable expression is read wherever it stands, and so are the members at the end of a list. -/
theorem run_write (expression : Sexp) :
    (expression.IsReadable false → ∀ (members : List Sexp) (around : List (List Sexp)) (rest : List Char),
      Follows rest false → run ⟨.between, members, around⟩ (expression.write false ++ rest) =
        run ⟨.between, expression :: members, around⟩ rest) ∧
    (expression.IsReadable true → ∀ (members outer : List Sexp) (around : List (List Sexp)) (rest : List Char),
      run ⟨.between, members, outer :: around⟩ (expression.write true ++ ')' :: rest) =
        run ⟨.between, closed members expression :: outer, around⟩ rest) := by
  induction expression with
  | nil => exact ⟨fun _ _ _ _ _ => rfl, fun _ _ _ _ _ => rfl⟩
  | cons head tail ihHead ihTail =>
    constructor
    · intro readable members around rest _
      have follows : Follows (tail.write true ++ ')' :: rest) false := follows_write readable.2 rfl
      have opening : run ⟨.between, members, around⟩ ((cons head tail).write false ++ rest) =
          run ⟨.between, [], members :: around⟩ (head.write false ++ (tail.write true ++ ')' :: rest)) := by
        rw [write_cons_append]
        rfl
      rw [opening, ihHead.1 readable.1 _ _ _ follows, ihTail.2 readable.2]
      rfl
    · intro readable members outer around rest
      have follows : Follows (tail.write true ++ ')' :: rest) false := follows_write readable.2 rfl
      have space : run ⟨.between, members, outer :: around⟩ ((cons head tail).write true ++ ')' :: rest) =
          run ⟨.between, members, outer :: around⟩ (head.write false ++ (tail.write true ++ ')' :: rest)) := by
        rw [write_cons_append]
        rfl
      rw [space, ihHead.1 readable.1 _ _ _ follows, ihTail.2 readable.2, closed_cons]
  | symbol name =>
    constructor
    · rintro ⟨_, isWord⟩ members around rest follows
      have whole := ofWord_symbol isWord
      obtain ⟨unbroken, c, first, isSymbol⟩ := isWord
      obtain ⟨more, written⟩ := List.head?_eq_some_iff.1 first
      have read : name.toList = (symbol name).write false := rfl
      rw [← read, ← whole, written]
      rw [written] at unbroken
      exact run_letters unbroken (by rw [isSymbol]; decide) (by rw [isSymbol]; decide) follows
    · rintro ⟨impossible, _⟩
      cases impossible
  | text value =>
    constructor
    · intro _ members around rest _
      have opening : run ⟨.between, members, around⟩ ((text value).write false ++ rest) =
          run ⟨.text [], members, around⟩ (value.toList.flatMap textChar ++ '"' :: rest) := by
        simp only [write, Bool.false_eq_true, if_false, List.nil_append, List.cons_append, List.append_assoc]
        rfl
      rw [opening, run_text, List.nil_append, String.ofList_toList]
    · intro impossible
      cases impossible
  | number value =>
    constructor
    · intro _ members around rest follows
      obtain ⟨c, more, written⟩ := List.exists_cons_of_ne_nil (Name.number_ne_nil value)
      have isNumber : Kind.ofFirst c = .number := ofFirst_of_mem_number (written ▸ List.mem_cons_self)
      have unbroken : ∀ d ∈ c :: more, isBreak d = false := fun d member => not_isBreak_of_mem_number (written ▸ member)
      have read : (toString value).toList = (number value).write false := rfl
      rw [← read, ← ofWord_number, written]
      exact run_letters unbroken (by rw [isNumber]; decide) (by rw [isNumber]; decide) follows
    · intro impossible
      cases impossible

end Reader

/-- A readable expression is read back from its text. -/
theorem read_render {expression : Sexp} (readable : expression.IsReadable false) :
    read expression.render.toList = some expression := by
  have whole := (Reader.run_write expression).1 readable [] [] [] (fun c impossible => by cases impossible)
  rw [List.append_nil] at whole
  rw [render, String.toList_ofList, read, whole]
  rfl

/-- Expressions that are written alike are the same. -/
theorem render_injective {one other : Sexp} (readable : one.IsReadable false) (readableToo : other.IsReadable false)
    (same : one.render = other.render) : one = other := by
  have read := read_render readable
  rw [same, read_render readableToo] at read
  exact (Option.some.inj read).symm

/-! ## Proper lists -/

theorem ofList_injective {one other : List Sexp} (same : ofList one = ofList other) : one = other := by
  induction one generalizing other with
  | nil =>
    cases other with
    | nil => rfl
    | cons member rest => cases same
  | cons member rest ih =>
    cases other with
    | nil => cases same
    | cons memberToo restToo =>
      obtain ⟨rfl, sameRest⟩ := Sexp.cons.inj same
      rw [ih sameRest]

theorem isReadable_ofList {members : List Sexp} (readable : ∀ member ∈ members, member.IsReadable false)
    (inside : Bool) : (ofList members).IsReadable inside := by
  induction members generalizing inside with
  | nil => trivial
  | cons member rest ih =>
    rw [List.forall_mem_cons] at readable
    exact ⟨readable.1, ih readable.2 true⟩

end Utterance.Sexp
