import Utterance.Proofs.Marking

/-!
# Where tokens stand

Each lexeme of a text stands after a part of the text that is a rendering of the tokens before it, in the column that
this part leads to. What comes after the first character of the lexeme has no influence on the lexemes before it
(`exists_cutAt`). A text has the form of a pattern if it renders the tokens of a written pattern, and these are the
texts that have marks (`isSyntactic_iff`).
-/

namespace Utterance.Pattern
set_option autoImplicit false

/-! ## Columns -/

/-- The column after a text that starts in a column. -/
def columnPast (column : Nat) (text : List Char) : Nat :=
  text.foldl columnAfter column

@[simp] theorem columnPast_nil (column : Nat) : columnPast column [] = column := rfl

@[simp] theorem columnPast_cons (column : Nat) (c : Char) (text : List Char) :
    columnPast column (c :: text) = columnPast (columnAfter column c) text := rfl

theorem columnPast_append (column : Nat) (first second : List Char) :
    columnPast column (first ++ second) = columnPast (columnPast column first) second :=
  List.foldl_append

/-- In one line, columns are counted by characters. -/
theorem columnPast_of_oneLine {text : List Char} (oneLine : '\n' ∉ text) (column : Nat) :
    columnPast column text = column + text.length := by
  induction text generalizing column with
  | nil => rfl
  | cons c rest ih =>
    rw [List.mem_cons, not_or] at oneLine
    have next : columnAfter column c = column + 1 := if_neg (Ne.symm oneLine.1)
    rw [columnPast_cons, ih oneLine.2, next, List.length_cons]
    omega

theorem scanFrom_past (numeric : Bool) (skip column : Nat) (text : List Char) :
    scanFrom numeric skip column text = scanFrom numeric 0 (columnPast column (text.take skip)) (text.drop skip) := by
  induction skip generalizing column text with
  | zero => rfl
  | succ skip ih =>
    cases text with
    | nil => simp [scanFrom]
    | cons c rest => exact ih (columnAfter column c) rest

/-! ## Tokens that begin a text -/

/-- The text begins with the token, and a name or numeral does not go on after it. -/
def Token.Begins (token : Token) (text : List Char) : Prop :=
  token.IsSpelled ∧ ∃ rest, text = token.spelling ++ rest ∧
    match token with
    | .name _ => ∀ c ∈ rest.head?, isNameChar c = false
    | .numeral _ => ∀ c ∈ rest.head?, isDigit c = false
    | _ => True

theorem head?_drop_takeWhile (p : Char → Bool) (text : List Char) :
    ∀ c ∈ (text.drop (text.takeWhile p).length).head?, p c = false := by
  induction text with
  | nil => simp
  | cons d rest ih =>
    cases holds : p d with
    | true => simpa [List.takeWhile_cons, holds] using ih
    | false => simp [holds]

theorem takeWhile_run_append {p : Char → Bool} {run tail : List Char} {d : Char}
    (stops : (run ++ d :: tail).takeWhile p = run) (other : List Char) : (run ++ d :: other).takeWhile p = run := by
  induction run with
  | nil =>
    cases holds : p d with
    | true => simp [holds] at stops
    | false => simp [holds]
  | cons c run ih =>
    cases holds : p c with
    | true =>
      simp only [List.cons_append, List.takeWhile_cons, holds, if_true, List.cons.injEq, true_and] at stops ⊢
      exact ih stops
    | false => simp [holds] at stops

/-- What is found at a character `c`, where `rest` follows. -/
inductive Token.Starts (numeric : Bool) (c : Char) (rest : List Char) : Token → Prop where
  | sign {sign : Token} (found : punctuation? c = some sign) : Starts numeric c rest sign
  | literal {more : List Char} (quote : c = '"' ∨ c = '\'') (closed : literalRest c rest = some more) :
      Starts numeric c rest (.literal (c :: more))
  | unclosed (quote : c = '"' ∨ c = '\'') (endless : literalRest c rest = none) : Starts numeric c rest (.stray c)
  | numeral (announced : numeric = true) (digit : isDigit c = true) :
      Starts numeric c rest (.numeral (c :: rest.takeWhile isDigit))
  | name (other : (numeric && isDigit c) = false) (letter : isNameChar c = true) :
      Starts numeric c rest (.name (c :: rest.takeWhile isNameChar))
  | stray (noSign : punctuation? c = none) (noQuote : ¬(c = '"' ∨ c = '\'')) (noLetter : isNameChar c = false) :
      Starts numeric c rest (.stray c)

section Starting

variable {numeric : Bool} {c : Char} {rest : List Char} {token : Token}

theorem starts_starting (numeric : Bool) (c : Char) (rest : List Char) :
    (Token.starting numeric c rest).Starts numeric c rest := by
  unfold Token.starting
  split
  · rename_i sign found
    exact .sign found
  · rename_i noSign
    split
    · rename_i quoted
      have quote : c = '"' ∨ c = '\'' := by simpa using quoted
      cases closed : literalRest c rest with
      | some more => exact .literal quote closed
      | none => exact .unclosed quote closed
    · rename_i noQuote
      split
      · rename_i digit
        obtain ⟨announced, isDigit⟩ := (Bool.and_eq_true _ _).mp digit
        exact .numeral announced isDigit
      · rename_i noDigit
        split
        · rename_i letter
          exact .name (Bool.eq_false_of_not_eq_true noDigit) letter
        · rename_i noLetter
          exact .stray noSign (by simpa using noQuote) (Bool.eq_false_of_not_eq_true noLetter)

theorem starting_eq_iff : Token.starting numeric c rest = token ↔ token.Starts numeric c rest := by
  constructor
  · rintro rfl
    exact starts_starting numeric c rest
  · intro starts
    cases starts with
    | sign found => simp [Token.starting, found]
    | literal quote closed => simp [Token.starting, punctuation?_eq_none (.inr quote), quote, closed]
    | unclosed quote endless => simp [Token.starting, punctuation?_eq_none (.inr quote), quote, endless]
    | numeral announced digit =>
      have letter := isNameChar_of_isDigit digit
      simp [Token.starting, punctuation?_eq_none (.inl letter), isNameChar.noQuote letter, announced, digit]
    | name other letter =>
      simp [Token.starting, punctuation?_eq_none (.inl letter), isNameChar.noQuote letter, other, letter]
    | stray noSign noQuote noLetter =>
      have noDigit := not_isDigit_of_not_isNameChar noLetter
      simp [Token.starting, noSign, noQuote, noDigit, noLetter]

theorem exists_spelling_of_starting (found : Token.starting numeric c rest = token) (known : token.isStray = false) :
    ∃ more after, token.spelling = c :: more ∧ rest = more ++ after := by
  obtain ⟨_, split⟩ := starting_eq found known
  cases spelling : token.spelling with
  | nil => simp [spelling] at split
  | cons d more =>
    rw [spelling, List.cons_append] at split
    obtain ⟨rfl, rest⟩ := List.cons.inj split
    exact ⟨more, _, rfl, rest⟩

/-- A token that is not stray begins the text that it is found at. -/
theorem begins_starting (found : Token.starting numeric c rest = token) (known : token.isStray = false) :
    token.Begins (c :: rest) := by
  obtain ⟨spelled, split⟩ := starting_eq found known
  refine ⟨spelled, _, split, ?_⟩
  cases starting_eq_iff.1 found with
  | sign found =>
    unfold punctuation? at found
    split at found <;> cases found <;> trivial
  | literal quote closed => trivial
  | unclosed quote endless => cases known
  | numeral announced digit => exact head?_drop_takeWhile isDigit rest
  | name other letter => exact head?_drop_takeWhile isNameChar rest
  | stray noSign noQuote noLetter => cases known

/-- A text that begins with a token begins with a sign, a literal, or a letter. -/
theorem head_of_isSpelled {after : List Char} (spelled : token.IsSpelled) (split : c :: rest = token.spelling ++ after) :
    punctuation? c ≠ none ∨ ((c = '"' ∨ c = '\'') ∧ literalRest c rest ≠ none) ∨ isNameChar c = true := by
  cases token with
  | literal spelling =>
    obtain ⟨text, quote, written, quotes, escaped, rfl⟩ := spelled
    have noBackslash : quote ≠ '\\' := by
      obtain rfl | rfl := quotes <;> decide
    simp only [Token.spelling, List.cons_append, List.append_assoc, List.nil_append, List.cons.injEq] at split
    obtain ⟨rfl, rfl⟩ := split
    refine .inr (.inl ⟨quotes, ?_⟩)
    rw [literalRest_of_escaped escaped noBackslash after]
    exact Option.some_ne_none _
  | name text =>
    cases text with
    | nil => exact absurd rfl spelled.1
    | cons d more =>
      obtain ⟨rfl, _⟩ := List.cons.inj split
      exact .inr (.inr (spelled.2 c (List.mem_cons_self ..)))
  | numeral digits =>
    cases digits with
    | nil => exact absurd rfl spelled.1
    | cons d more =>
      obtain ⟨rfl, _⟩ := List.cons.inj split
      exact .inr (.inr (isNameChar_of_isDigit (spelled.2 c (List.mem_cons_self ..))))
  | stray d => exact spelled.elim
  | _ =>
    obtain ⟨rfl, _⟩ := List.cons.inj split
    exact .inl (by decide)

/-- No token begins a text at which nothing but a stray character is found. -/
theorem not_begins_of_stray {stray : Char} (found : Token.starting numeric c rest = .stray stray) (token : Token) :
    ¬token.Begins (c :: rest) := by
  rintro ⟨spelled, after, split, _⟩
  have head := head_of_isSpelled spelled split
  cases starting_eq_iff.1 found with
  | sign found => exact (punctuation?_eq_some found).2.1
  | unclosed quote endless =>
    obtain sign | ⟨_, closed⟩ | letter := head
    · exact sign (punctuation?_eq_none (.inr quote))
    · exact closed endless
    · exact isNameChar.noQuote letter quote
  | stray noSign noQuote noLetter =>
    obtain sign | ⟨quote, _⟩ | letter := head
    · exact sign noSign
    · exact noQuote quote
    · rw [noLetter] at letter
      cases letter

theorem starting_eq_stray (stray : (Token.starting numeric c rest).isStray = true) :
    Token.starting numeric c rest = .stray c := by
  have starts := starts_starting numeric c rest
  generalize Token.starting numeric c rest = token at starts stray
  cases starts with
  | sign found =>
    unfold punctuation? at found
    split at found <;> cases found <;> cases stray
  | literal quote closed => cases stray
  | unclosed quote endless => rfl
  | numeral announced digit => cases stray
  | name other letter => cases stray
  | stray noSign noQuote noLetter => rfl

/-- After the spelling of a token and one more character, nothing matters for what is found. -/
theorem starting_append {more tail : List Char} {d : Char} (found : Token.starting numeric c (more ++ d :: tail) = token)
    (known : token.isStray = false) (spelling : token.spelling = c :: more) (other : List Char) :
    Token.starting numeric c (more ++ d :: other) = token := by
  rw [starting_eq_iff] at found ⊢
  cases found with
  | sign found => exact .sign found
  | @literal inner quote closed =>
    obtain rfl : inner = more := by simpa [Token.spelling] using spelling
    obtain ⟨written, meant, after, escaped, rfl, _⟩ := literalRest_eq_some closed
    have noBackslash : c ≠ '\\' := by
      obtain rfl | rfl := quote <;> decide
    refine .literal quote ?_
    rw [List.append_assoc]
    exact literalRest_of_escaped escaped noBackslash (d :: other)
  | unclosed quote endless => cases known
  | numeral announced digit =>
    have stops : (more ++ d :: tail).takeWhile isDigit = more := by simpa [Token.spelling] using spelling
    have same : (more ++ d :: other).takeWhile isDigit = (more ++ d :: tail).takeWhile isDigit := by
      rw [takeWhile_run_append stops other, stops]
    rw [← same]
    exact .numeral announced digit
  | name otherwise letter =>
    have stops : (more ++ d :: tail).takeWhile isNameChar = more := by simpa [Token.spelling] using spelling
    have same : (more ++ d :: other).takeWhile isNameChar = (more ++ d :: tail).takeWhile isNameChar := by
      rw [takeWhile_run_append stops other, stops]
    rw [← same]
    exact .name otherwise letter
  | stray noSign noQuote noLetter => cases known

end Starting

/-! ## The lexemes before a character -/

/-- Whether digits are a numeral after lexemes. -/
def announced : (numeric : Bool) → List Lexeme → Bool
  | numeric, [] => numeric
  | _, lexeme :: rest => announced lexeme.token.announcesNumeral rest

/-- The scan of a text gives `before`, and then what is found at the character `c` that comes after `head`. -/
structure CutAt (numeric : Bool) (column : Nat) (before : List Lexeme) (head : List Char) (c : Char) : Prop where
  rendered : Rendered (before.map Lexeme.token) head
  spelled : ∀ lexeme ∈ before, lexeme.token.IsSpelled
  noSpace : isSpace c = false
  /-- whatever comes later -/
  scanned : ∀ rest, ∃ after, scanFrom numeric 0 column (head ++ c :: rest) =
    before ++ ⟨Token.starting (announced numeric before) c rest, columnPast column head⟩ :: after

section CutAt

variable {numeric : Bool} {column : Nat} {before : List Lexeme} {head : List Char} {c : Char}

theorem CutAt.nil (noSpace : isSpace c = false) : CutAt numeric column [] [] c where
  rendered := .nil (List.forall_mem_nil _)
  spelled := List.forall_mem_nil _
  noSpace := noSpace
  scanned rest := by simp [scanFrom, noSpace, announced]

theorem CutAt.space {d : Char} (space : isSpace d = true) (cut : CutAt numeric (columnAfter column d) before head c) :
    CutAt numeric column before (d :: head) c where
  rendered := cut.rendered.space space
  spelled := cut.spelled
  noSpace := cut.noSpace
  scanned rest := by
    obtain ⟨after, scanned⟩ := cut.scanned rest
    refine ⟨after, ?_⟩
    rw [List.cons_append, scanFrom, if_pos space]
    exact scanned

theorem scanFrom_cons_token {token : Token} {d : Char} {more rest : List Char}
    (found : Token.starting numeric d (more ++ rest) = token) (noSpace : isSpace d = false) (known : token.isStray = false)
    (spelling : token.spelling = d :: more) : scanFrom numeric 0 column (token.spelling ++ rest) =
      ⟨token, column⟩ :: scanFrom token.announcesNumeral 0 (columnPast column token.spelling) rest := by
  have past := scanFrom_past token.announcesNumeral more.length (columnAfter column d) (more ++ rest)
  rw [List.take_left, List.drop_left] at past
  simp [spelling, scanFrom, noSpace, found, known, past]

theorem CutAt.token {token : Token} {d : Char} {more rest : List Char}
    (found : Token.starting numeric d (more ++ (head ++ c :: rest)) = token) (noSpace : isSpace d = false)
    (known : token.isStray = false) (spelling : token.spelling = d :: more)
    (cut : CutAt token.announcesNumeral (columnPast column token.spelling) before head c) :
    CutAt numeric column (⟨token, column⟩ :: before) (token.spelling ++ head) c where
  rendered := cut.rendered.token
  spelled := List.forall_mem_cons.2 ⟨(starting_eq found known).1, cut.spelled⟩
  noSpace := cut.noSpace
  scanned other := by
    obtain ⟨after, scanned⟩ := cut.scanned other
    refine ⟨after, ?_⟩
    -- what follows the token begins as before, with a character of `head` or with `c`
    have same : Token.starting numeric d (more ++ (head ++ c :: other)) = token := by
      cases head with
      | nil => exact starting_append found known spelling other
      | cons e tail => exact starting_append found known spelling (tail ++ c :: other)
    rw [List.append_assoc, scanFrom_cons_token same noSpace known spelling, scanned, columnPast_append]
    rfl

end CutAt

/-- Each lexeme of a text is what is found at a character. -/
theorem exists_cutAt {numeric : Bool} {column : Nat} {text : List Char} {before after : List Lexeme} {lexeme : Lexeme}
    (scanned : scanFrom numeric 0 column text = before ++ lexeme :: after) :
    ∃ head c rest, text = head ++ c :: rest ∧ CutAt numeric column before head c := by
  induction size : text.length using Nat.strongRecOn generalizing numeric column text before with
  | ind size ih =>
    subst size
    cases text with
    | nil => simp [scanFrom] at scanned
    | cons d rest =>
      cases space : isSpace d with
      | true =>
        rw [scanFrom, if_pos space] at scanned
        obtain ⟨head, c, tail, rfl, cut⟩ := ih rest.length (by simp) scanned rfl
        exact ⟨d :: head, c, tail, rfl, cut.space space⟩
      | false =>
        cases before with
        | nil => exact ⟨[], d, rest, rfl, .nil space⟩
        | cons first before =>
          rw [scanFrom, if_neg (Bool.eq_false_iff.1 space), List.cons_append] at scanned
          obtain ⟨rfl, later⟩ := List.cons.inj scanned
          have known : (Token.starting numeric d rest).isStray = false := by
            cases stray : (Token.starting numeric d rest).isStray with
            | false => rfl
            | true => simp [stray] at later
          obtain ⟨more, following, spelling, rfl⟩ := exists_spelling_of_starting rfl known
          have shorter : following.length < (d :: (more ++ following)).length := by
            rw [List.length_cons, List.length_append]
            omega
          have whole := @scanFrom_cons_token numeric column _ d more following rfl space known spelling
          rw [spelling, List.cons_append, scanFrom, if_neg (Bool.eq_false_iff.1 space)] at whole
          rw [(List.cons.inj whole).2] at later
          obtain ⟨head, c, tail, rfl, cut⟩ := ih following.length shorter later rfl
          rw [← spelling] at cut
          refine ⟨_, c, tail, ?_, CutAt.token rfl space known spelling cut⟩
          rw [spelling, List.append_assoc]
          rfl

/-- A cut of a whole text gives its lexemes. -/
theorem CutAt.lexeme_eq {numeric : Bool} {column : Nat} {before after : List Lexeme} {head rest : List Char} {c : Char}
    {lexeme : Lexeme} (cut : CutAt numeric column before head c)
    (scanned : scanFrom numeric 0 column (head ++ c :: rest) = before ++ lexeme :: after) :
    lexeme = ⟨Token.starting (announced numeric before) c rest, columnPast column head⟩ := by
  obtain ⟨others, same⟩ := cut.scanned rest
  have tails := List.append_cancel_left (scanned.symm.trans same)
  exact (List.cons.inj tails).1

/-! ## Texts that have the form of a pattern -/

/-- The text renders the tokens of a written pattern. Its literals may be empty and its ranges may end below their
start. -/
def IsSyntactic (text : List Char) : Prop :=
  ∃ written : Written, (∀ token ∈ written.write tokenScript, token.IsSpelled) ∧ Rendered (written.write tokenScript) text

theorem Rendered.append {first second : List Token} {text more : List Char} (rendered : Rendered first text)
    (others : Rendered second more) : Rendered (first ++ second) (text ++ more) := by
  induction rendered with
  | @nil spaces blank =>
    induction spaces with
    | nil => exact others
    | cons c spaces ih =>
      rw [List.forall_mem_cons] at blank
      exact (ih blank.2).space blank.1
  | cons blank _ ih =>
    rw [List.append_assoc, List.append_assoc, List.cons_append]
    exact .cons blank ih

/-- A rendering of a written pattern is cut into its tokens. -/
theorem map_token_scan {written : Written} {text : List Char}
    (spelled : ∀ token ∈ written.write tokenScript, token.IsSpelled) (rendered : Rendered (written.write tokenScript) text) :
    (scan text).map Lexeme.token = written.write tokenScript :=
  scanFrom_of_rendered rendered (Written.readable spelled)

/-- The texts with the form of a pattern are those that have marks. -/
theorem isSyntactic_iff {text : List Char} : IsSyntactic text ↔ ∃ found, marks text = .ok found := by
  constructor
  · rintro ⟨written, spelled, rendered⟩
    exact Reading.accepts_written (map_token_scan spelled rendered).symm
  · rintro ⟨found, read⟩
    obtain ⟨written, tokens, _⟩ := Reading.exists_written read
    have known := Written.isStray_eq_false written
    rw [tokens, List.forall_mem_map] at known
    obtain ⟨rendered, spelled⟩ := rendered_of_scanFrom known
    refine ⟨written, ?_, ?_⟩
    · rw [tokens, List.forall_mem_map]
      exact spelled
    · rw [tokens]
      exact rendered

end Utterance.Pattern
