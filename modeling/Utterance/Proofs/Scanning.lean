import Utterance.Proofs.Basic
import Utterance.Proofs.Spelling

/-!
# Scanning

Cutting a text into tokens and writing tokens as a text undo each other. If no token of a text is stray, the text is a
rendering of its tokens (`rendered_of_scanFrom`). If tokens can be read one after the other, every rendering of them is
cut into these tokens again (`scanFrom_of_rendered`): numerals stand where they are announced, names do not, and neither
runs into what follows it.
-/

namespace Utterance.Pattern
set_option autoImplicit false

/-! ## Classes of characters -/

theorem isSpace_iff {c : Char} : isSpace c ↔ c = ' ' ∨ c = '\t' ∨ c = '\x0c' ∨ c = '\r' ∨ c = '\n' := by
  simp [isSpace, or_assoc]

theorem isNameChar_of_isDigit {c : Char} (digit : isDigit c) : isNameChar c := by
  simp [isNameChar, digit]

theorem not_isNameChar_of_isSpace {c : Char} (space : isSpace c) : isNameChar c = false := by
  obtain rfl | rfl | rfl | rfl | rfl := isSpace_iff.1 space <;> decide

theorem isNameChar.noSpace {c : Char} (letter : isNameChar c) : isSpace c = false := by
  cases space : isSpace c with
  | false => rfl
  | true =>
    rw [not_isNameChar_of_isSpace space] at letter
    cases letter

theorem isNameChar.noQuote {c : Char} (letter : isNameChar c) : ¬(c = '"' ∨ c = '\'') := by
  rintro (rfl | rfl) <;> exact absurd letter (by decide)

theorem not_isDigit_of_not_isNameChar {c : Char} (noName : isNameChar c = false) : isDigit c = false := by
  cases digit : isDigit c with
  | false => rfl
  | true => simp [isNameChar_of_isDigit digit] at noName

namespace Token

/-- The tokens of one character. -/
def IsPunctuation (token : Token) : Prop :=
  ∃ c, punctuation? c = some token

/-- The token can be cut out of a text. -/
def IsSpelled : Token → Prop
  | .literal spelling => ∃ text, IsLiteral spelling text
  | .name text => IsName text
  | .numeral digits => digits ≠ [] ∧ ∀ c ∈ digits, isDigit c
  | .stray _ => False
  | _ => True

end Token

theorem punctuation?_eq_some {c : Char} {token : Token} (found : punctuation? c = some token) :
    token.spelling = [c] ∧ token.IsSpelled ∧ isSpace c = false ∧ isNameChar c = false := by
  unfold punctuation? at found
  split at found <;> cases found <;> exact ⟨rfl, trivial, by decide, by decide⟩

theorem punctuation?_eq_none {c : Char} (noPunctuation : isNameChar c ∨ c = '"' ∨ c = '\'') : punctuation? c = none := by
  cases found : punctuation? c with
  | none => rfl
  | some token =>
    obtain name | rfl | rfl := noPunctuation
    · rw [(punctuation?_eq_some found).2.2.2] at name
      cases name
    · cases found
    · cases found

/-! ## From texts to tokens -/

theorem literalRest_eq_some {quote : Char} {text more : List Char} (found : literalRest quote text = some more) :
    ∃ written meant after, Escaped quote written meant ∧ more = written ++ [quote] ∧ text = more ++ after := by
  fun_induction literalRest quote text generalizing more with
  | case1 => cases found
  | case2 c rest isBreak => cases found
  | case3 c rest noBreak ih =>
    obtain ⟨inner, closed, rfl⟩ := Option.map_eq_some_iff.1 found
    obtain ⟨written, meant, after, escaped, rfl, rfl⟩ := ih closed
    exact ⟨'\\' :: c :: written, c :: meant, after, .escaped noBreak escaped, rfl, rfl⟩
  | case4 rest noEscape =>
    cases found
    exact ⟨[], [], rest, .nil, rfl, rfl⟩
  | case5 c rest noEscape noQuote excluded => cases found
  | case6 c rest noEscape noQuote allowed ih =>
    obtain ⟨inner, closed, rfl⟩ := Option.map_eq_some_iff.1 found
    obtain ⟨written, meant, after, escaped, rfl, rfl⟩ := ih closed
    simp only [Bool.or_eq_true, decide_eq_true_eq, not_or] at allowed
    exact ⟨c :: written, c :: meant, after, .plain noQuote allowed.1 allowed.2 escaped, rfl, rfl⟩

/-- A token that is not stray is what the text begins with. -/
theorem starting_eq {numeric : Bool} {c : Char} {rest : List Char} {token : Token}
    (found : Token.starting numeric c rest = token) (known : token.isStray = false) :
    token.IsSpelled ∧ c :: rest = token.spelling ++ rest.drop (token.spelling.length - 1) := by
  unfold Token.starting at found
  split at found
  · rename_i sign punctuation
    cases found
    obtain ⟨spelling, spelled, _⟩ := punctuation?_eq_some punctuation
    exact ⟨spelled, by simp [spelling]⟩
  · split at found
    · rename_i quoted
      split at found
      · rename_i more closed
        cases found
        obtain ⟨written, meant, after, escaped, rfl, rfl⟩ := literalRest_eq_some closed
        have quotes : c = '"' ∨ c = '\'' := by simpa using quoted
        exact ⟨⟨meant, c, written, quotes, escaped, rfl⟩, by simp [Token.spelling]⟩
      · cases found
        cases known
    · split at found
      · rename_i digit
        cases found
        simp only [Bool.and_eq_true] at digit
        refine ⟨⟨by simp, ?_⟩, ?_⟩
        · intro d member
          obtain rfl | member := List.mem_cons.1 member
          · exact digit.2
          · exact List.all_eq_true.1 List.all_takeWhile _ member
        · simp [Token.spelling, List.prefix_iff_eq_append.1 ( List.takeWhile_prefix isDigit)]
      · split at found
        · rename_i letter
          cases found
          refine ⟨⟨by simp, ?_⟩, ?_⟩
          · intro d member
            obtain rfl | member := List.mem_cons.1 member
            · exact letter
            · exact List.all_eq_true.1 List.all_takeWhile _ member
          · simp [Token.spelling, List.prefix_iff_eq_append.1 ( List.takeWhile_prefix isNameChar)]
        · cases found
          cases known

theorem scanFrom_skip (numeric : Bool) (skip column : Nat) (text : List Char) :
    ∃ later, scanFrom numeric skip column text = scanFrom numeric 0 later (text.drop skip) := by
  induction skip generalizing column text with
  | zero => exact ⟨column, rfl⟩
  | succ skip ih =>
    cases text with
    | nil => exact ⟨column, by simp [scanFrom]⟩
    | cons c rest => simpa [scanFrom] using ih (columnAfter column c) rest

theorem scanFrom_token {numeric : Bool} {column : Nat} {c : Char} {rest : List Char} {token : Token}
    (found : Token.starting numeric c rest = token) (noSpace : isSpace c = false) (known : token.isStray = false) :
    ∃ later, scanFrom numeric 0 column (c :: rest) =
      ⟨token, column⟩ :: scanFrom token.announcesNumeral 0 later (rest.drop (token.spelling.length - 1)) := by
  obtain ⟨later, same⟩ :=
    scanFrom_skip token.announcesNumeral (token.spelling.length - 1) (columnAfter column c) rest
  exact ⟨later, by simp [scanFrom, noSpace, found, known, same]⟩

theorem Rendered.space {c : Char} {tokens : List Token} {text : List Char} (space : isSpace c)
    (rendered : Rendered tokens text) : Rendered tokens (c :: text) := by
  cases rendered with
  | nil blank => exact .nil (List.forall_mem_cons.2 ⟨space, blank⟩)
  | cons blank rest => exact .cons (List.forall_mem_cons.2 ⟨space, blank⟩) rest

theorem Rendered.token {token : Token} {tokens : List Token} {text : List Char} (rendered : Rendered tokens text) :
    Rendered (token :: tokens) (token.spelling ++ text) :=
  .cons (List.forall_mem_nil _) rendered

/-- A text without stray tokens is a rendering of its tokens. -/
theorem rendered_of_scanFrom {numeric : Bool} {column : Nat} {text : List Char}
    (known : ∀ lexeme ∈ scanFrom numeric 0 column text, lexeme.token.isStray = false) :
    Rendered ((scanFrom numeric 0 column text).map Lexeme.token) text ∧
      ∀ lexeme ∈ scanFrom numeric 0 column text, lexeme.token.IsSpelled := by
  induction size : text.length using Nat.strongRecOn generalizing numeric column text with
  | ind size ih =>
    subst size
    cases text with
    | nil => exact ⟨.nil (by simp), by simp [scanFrom]⟩
    | cons c rest =>
      by_cases space : isSpace c
      · simp only [scanFrom, space, if_true] at known ⊢
        obtain ⟨rendered, spelled⟩ := ih rest.length (by simp) known rfl
        exact ⟨rendered.space space, spelled⟩
      · have noSpace : isSpace c = false := by simpa using space
        have first : (Token.starting numeric c rest).isStray = false :=
          known ⟨Token.starting numeric c rest, column⟩ (by simp [scanFrom, noSpace])
        obtain ⟨later, same⟩ := @scanFrom_token numeric column c rest _ rfl noSpace first
        obtain ⟨spelled, split⟩ := starting_eq rfl first
        rw [same, List.forall_mem_cons] at known
        rw [same]
        have shorter : (rest.drop ((Token.starting numeric c rest).spelling.length - 1)).length <
            (c :: rest).length := by
          simp only [List.length_drop, List.length_cons]
          omega
        obtain ⟨rendered, others⟩ := ih _ shorter known.2 rfl
        refine ⟨?_, List.forall_mem_cons.2 ⟨spelled, others⟩⟩
        rw [split]
        exact rendered.token

/-! ## From tokens to texts -/

namespace Token

/-- Whether the token goes on for as long as its characters do. -/
def IsRun : Token → Prop
  | .name _ => True
  | .numeral _ => True
  | _ => False

/-- Whether the token may stand where numerals are announced, or where they are not. -/
def StandsIn (numeric : Bool) : Token → Prop
  | .name _ => numeric = false
  | .numeral _ => numeric = true
  | _ => True

end Token

/-- The tokens can be read one after the other, whether a numeral is announced before them or not. -/
def Readable : (numeric : Bool) → List Token → Prop
  | _, [] => True
  | numeric, token :: rest =>
    token.IsSpelled ∧ token.StandsIn numeric ∧ (token.IsRun → ∀ next ∈ rest.head?, next.IsPunctuation) ∧
      Readable token.announcesNumeral rest

theorem literalRest_of_escaped {quote : Char} {written text : List Char} (escaped : Escaped quote written text)
    (noBackslash : quote ≠ '\\') (rest : List Char) :
    literalRest quote (written ++ quote :: rest) = some (written ++ [quote]) := by
  induction escaped with
  | nil => simp [literalRest, noBackslash]
  | plain noQuote plain noBreak _ ih => simp [literalRest, noQuote, plain, noBreak, ih]
  | escaped noBreak _ ih => simp [literalRest, noBreak, ih]

/-- A spelled token is found at the start of a text, if the text does not prolong it. -/
theorem starting_of_isSpelled {numeric : Bool} {token : Token} {rest : List Char} (spelled : token.IsSpelled)
    (stands : token.StandsIn numeric) (stop : token.IsRun → ∀ c ∈ rest.head?, isNameChar c = false) :
    ∃ c more, token.spelling = c :: more ∧ isSpace c = false ∧ Token.starting numeric c (more ++ rest) = token := by
  cases token with
  | literal spelling =>
    obtain ⟨text, quote, written, quotes, escaped, rfl⟩ := spelled
    refine ⟨quote, written ++ [quote], rfl, ?_, ?_⟩
    · obtain rfl | rfl := quotes <;> decide
    · have noBackslash : quote ≠ '\\' := by
        obtain rfl | rfl := quotes <;> decide
      have closed := literalRest_of_escaped escaped noBackslash rest
      simp [Token.starting, punctuation?_eq_none (.inr quotes), quotes, closed]
  | name text =>
    obtain ⟨nonempty, letters⟩ := spelled
    cases text with
    | nil => exact absurd rfl nonempty
    | cons c more =>
      rw [List.forall_mem_cons] at letters
      refine ⟨c, more, rfl, isNameChar.noSpace letters.1, ?_⟩
      have run := takeWhile_append_stop letters.2 (stop trivial)
      cases (show numeric = false from stands)
      simp [Token.starting, punctuation?_eq_none (.inl letters.1), isNameChar.noQuote letters.1, letters.1, run]
  | numeral digits =>
    obtain ⟨nonempty, all⟩ := spelled
    cases digits with
    | nil => exact absurd rfl nonempty
    | cons c more =>
      rw [List.forall_mem_cons] at all
      have letter := isNameChar_of_isDigit all.1
      refine ⟨c, more, rfl, isNameChar.noSpace letter, ?_⟩
      have run := takeWhile_append_stop all.2
        (fun d member => not_isDigit_of_not_isNameChar (stop trivial d member))
      cases (show numeric = true from stands)
      simp [Token.starting, punctuation?_eq_none (.inl letter), isNameChar.noQuote letter, all.1, run]
  | stray c => exact spelled.elim
  | _ => exact ⟨_, [], rfl, by decide, rfl⟩

theorem scanFrom_spaces {numeric : Bool} {column : Nat} {spaces : List Char} (blank : ∀ c ∈ spaces, isSpace c)
    (text : List Char) : ∃ later, scanFrom numeric 0 column (spaces ++ text) = scanFrom numeric 0 later text := by
  induction spaces generalizing column with
  | nil => exact ⟨column, rfl⟩
  | cons c spaces ih =>
    rw [List.forall_mem_cons] at blank
    simpa [scanFrom, blank.1] using ih blank.2

/-- A rendering of tokens begins with a space or with the first character of the first token. -/
theorem Rendered.head {tokens : List Token} {text : List Char} (rendered : Rendered tokens text)
    (signs : ∀ next ∈ tokens.head?, next.IsPunctuation) : ∀ c ∈ text.head?, isNameChar c = false := by
  intro c first
  cases rendered with
  | nil blank => exact not_isNameChar_of_isSpace (blank c (List.mem_of_mem_head? first))
  | @cons spaces token tokens rest blank _ =>
    cases spaces with
    | nil =>
      obtain ⟨sign, found⟩ := signs token rfl
      obtain ⟨spelling, _, _, noName⟩ := punctuation?_eq_some found
      rw [spelling] at first
      cases first
      exact noName
    | cons d spaces =>
      cases first
      exact not_isNameChar_of_isSpace (blank c (List.mem_cons_self ..))

/-- Every rendering of readable tokens is cut into these tokens. -/
theorem scanFrom_of_rendered {tokens : List Token} {text : List Char} (rendered : Rendered tokens text) {numeric : Bool}
    {column : Nat} (readable : Readable numeric tokens) :
    (scanFrom numeric 0 column text).map Lexeme.token = tokens := by
  induction rendered generalizing numeric column with
  | @nil spaces blank =>
    obtain ⟨later, same⟩ := @scanFrom_spaces numeric column spaces blank []
    rw [List.append_nil] at same
    rw [same]
    rfl
  | @cons spaces token tokens rest blank rendered ih =>
    obtain ⟨spelled, stands, stop, readable⟩ := readable
    obtain ⟨later, same⟩ := @scanFrom_spaces numeric column spaces blank (token.spelling ++ rest)
    obtain ⟨c, more, spelling, noSpace, found⟩ :=
      starting_of_isSpelled spelled stands (fun run => rendered.head (stop run))
    have known : token.isStray = false := by
      cases token with
      | stray c => exact spelled.elim
      | _ => rfl
    obtain ⟨after, next⟩ := @scanFrom_token numeric later c (more ++ rest) token found noSpace known
    rw [same, spelling, List.cons_append, next, List.map_cons, spelling]
    simp [ih readable]

end Utterance.Pattern
