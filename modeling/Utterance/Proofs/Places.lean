import Utterance.Proofs.Cutting

/-!
# Places of tokens

In a text with the form of a pattern, each token stands right after the part of the text that renders the tokens before
it. Every lexeme of the text has such a place, and the column that it leads to (`exists_stands`). The order of the
tokens is the order of their places (`Stands.length_lt`).
-/

namespace Utterance.Pattern
set_option autoImplicit false

/-- If two splits of a list are not at the same place, the member at the first is in the part before the second. -/
theorem exists_middle {α : Type} {first second last rest : List α} {a b : α} (same : first ++ a :: last = second ++ b :: rest)
    (fewer : first.length < second.length) : ∃ middle, second = first ++ a :: middle ∧ last = middle ++ b :: rest := by
  obtain ⟨part, rfl, split⟩ | ⟨part, rfl, _⟩ := List.append_eq_append_iff.1 same
  · cases part with
    | nil => simp at fewer
    | cons c middle =>
      obtain ⟨rfl, rfl⟩ := List.cons.inj split
      exact ⟨middle, rfl, rfl⟩
  · rw [List.length_append] at fewer
    omega

/-- In a text with the form of a pattern, the token stands right after `head`, which renders the tokens before it. -/
structure Stands (text : List Char) (before : List Token) (head : List Char) (token : Token) (after : List Token) : Prop where
  derived : ∃ written : Written, written.write tokenScript = before ++ token :: after
  spelled : ∀ part ∈ before ++ token :: after, part.IsSpelled
  leading : Rendered before head
  trailing : ∃ more, text = head ++ (token.spelling ++ more) ∧ Rendered after more

theorem scanFrom_blank {spaces : List Char} (blank : ∀ c ∈ spaces, isSpace c) (numeric : Bool) (column : Nat)
    (text : List Char) :
    scanFrom numeric 0 column (spaces ++ text) = scanFrom numeric 0 (columnPast column spaces) text := by
  induction spaces generalizing column with
  | nil => rfl
  | cons c spaces ih =>
    rw [List.forall_mem_cons] at blank
    rw [List.cons_append, scanFrom, if_pos blank.1]
    exact ih blank.2 (columnAfter column c)

theorem Token.IsSpelled.isStray_eq_false {token : Token} (spelled : token.IsSpelled) : token.isStray = false := by
  cases token with
  | stray c => exact spelled.elim
  | _ => rfl

theorem scanFrom_of_rendered_cons {token : Token} {others : List Token} {rest : List Char}
    (following : Rendered others rest) {numeric : Bool} (readable : Readable numeric (token :: others)) (column : Nat) :
    scanFrom numeric 0 column (token.spelling ++ rest) =
      ⟨token, column⟩ :: scanFrom token.announcesNumeral 0 (columnPast column token.spelling) rest := by
  obtain ⟨spelled, stands, stop, _⟩ := readable
  obtain ⟨c, more, spelling, noSpace, found⟩ :=
    starting_of_isSpelled spelled stands (fun run => following.head (stop run))
  exact scanFrom_cons_token found noSpace spelled.isStray_eq_false spelling

/-- The part of a text that renders the first tokens is cut into them, and what follows it is cut on its own. -/
theorem scanFrom_of_rendered_append {tokens others : List Token} {head rest : List Char} (rendered : Rendered tokens head)
    (following : Rendered others rest) {numeric : Bool} (readable : Readable numeric (tokens ++ others)) (column : Nat) :
    ∃ before, before.map Lexeme.token = tokens ∧ Readable (announced numeric before) others ∧
      scanFrom numeric 0 column (head ++ rest) =
        before ++ scanFrom (announced numeric before) 0 (columnPast column head) rest := by
  induction rendered generalizing numeric column with
  | nil blank => exact ⟨[], rfl, readable, scanFrom_blank blank numeric column rest⟩
  | @cons spaces token tokens tail blank rendered ih =>
    have goesOn : Rendered (tokens ++ others) (tail ++ rest) := rendered.append following
    obtain ⟨before, rfl, later, scanned⟩ :=
      ih readable.2.2.2 (columnPast (columnPast column spaces) token.spelling)
    refine ⟨⟨token, columnPast column spaces⟩ :: before, rfl, later, ?_⟩
    rw [List.append_assoc, List.append_assoc, scanFrom_blank blank, scanFrom_of_rendered_cons goesOn readable, scanned,
      columnPast_append, columnPast_append]
    rfl

theorem Rendered.exists_split {first others : List Token} {token : Token} {text : List Char}
    (rendered : Rendered (first ++ token :: others) text) :
    ∃ head more, text = head ++ (token.spelling ++ more) ∧ Rendered first head ∧ Rendered others more := by
  induction first generalizing text with
  | nil =>
    cases rendered with
    | cons blank rest => exact ⟨_, _, rfl, .nil blank, rest⟩
  | cons skipped first ih =>
    cases rendered with
    | @cons spaces _ _ tail blank rest =>
      obtain ⟨head, more, rfl, leading, trailing⟩ := ih rest
      refine ⟨spaces ++ (skipped.spelling ++ head), more, ?_, .cons blank leading, trailing⟩
      rw [List.append_assoc, List.append_assoc]

theorem Token.IsSpelled.exists_spelling {token : Token} (spelled : token.IsSpelled) :
    ∃ c more, token.spelling = c :: more ∧ isSpace c = false := by
  obtain ⟨numeric, stands⟩ : ∃ numeric, token.StandsIn numeric := by
    cases token with
    | name text => exact ⟨false, rfl⟩
    | numeral digits => exact ⟨true, rfl⟩
    | _ => exact ⟨false, trivial⟩
  obtain ⟨c, more, spelling, noSpace, _⟩ := @starting_of_isSpelled numeric token [] spelled stands (by simp)
  exact ⟨c, more, spelling, noSpace⟩

theorem Token.IsSpelled.noSpace {token : Token} (spelled : token.IsSpelled) (rest : List Char) :
    ∀ c ∈ (token.spelling ++ rest).head?, isSpace c = false := by
  obtain ⟨c, more, spelling, noSpace⟩ := spelled.exists_spelling
  rw [spelling]
  rintro d ⟨⟩
  exact noSpace

/-- Where the spaces before a token end is no matter of choice. -/
theorem blank_eq {first second rest others : List Char} (blank : ∀ c ∈ first, isSpace c) (blankToo : ∀ c ∈ second, isSpace c)
    (stop : ∀ c ∈ rest.head?, isSpace c = false) (stopToo : ∀ c ∈ others.head?, isSpace c = false)
    (same : first ++ rest = second ++ others) : first = second := by
  have left := takeWhile_append_stop blank stop
  have right := takeWhile_append_stop blankToo stopToo
  rw [← left, ← right, same]

/-- The part of a text that renders given tokens, up to the next token, is no matter of choice. -/
theorem Rendered.eq_of_append_eq {tokens : List Token} {first second rest others : List Char}
    (rendered : Rendered tokens first) (renderedToo : Rendered tokens second) (spelled : ∀ token ∈ tokens, token.IsSpelled)
    (stop : ∀ c ∈ rest.head?, isSpace c = false) (stopToo : ∀ c ∈ others.head?, isSpace c = false)
    (same : first ++ rest = second ++ others) : first = second := by
  induction rendered generalizing second with
  | nil blank =>
    cases renderedToo with
    | nil blankToo => exact blank_eq blank blankToo stop stopToo same
  | @cons spaces token tokens tail blank rendered ih =>
    cases renderedToo with
    | @cons spacesToo _ _ tailToo blankToo renderedToo =>
      rw [List.forall_mem_cons] at spelled
      simp only [List.append_assoc] at same
      obtain rfl := blank_eq blank blankToo (spelled.1.noSpace _) (spelled.1.noSpace _) same
      have tails := List.append_cancel_left (List.append_cancel_left same)
      rw [ih renderedToo spelled.2 tails]

namespace Stands

variable {text head : List Char} {before after : List Token} {token : Token}

theorem rendered (stands : Stands text before head token after) : Rendered (before ++ token :: after) text := by
  obtain ⟨more, rfl, trailing⟩ := stands.trailing
  exact stands.leading.append trailing.token

theorem readable (stands : Stands text before head token after) : Readable false (before ++ token :: after) := by
  obtain ⟨written, same⟩ := stands.derived
  have spelled := stands.spelled
  rw [← same] at spelled ⊢
  exact Written.readable spelled

theorem map_token_scan (stands : Stands text before head token after) :
    (scan text).map Lexeme.token = before ++ token :: after :=
  scanFrom_of_rendered stands.rendered stands.readable

/-- The token is the one that is cut out there. -/
theorem exists_scan (stands : Stands text before head token after) : ∃ first last,
    scan text = first ++ ⟨token, columnPast 1 head⟩ :: last ∧ first.map Lexeme.token = before ∧
      last.map Lexeme.token = after := by
  obtain ⟨more, rfl, trailing⟩ := stands.trailing
  obtain ⟨first, rfl, readable, scanned⟩ :=
    scanFrom_of_rendered_append stands.leading trailing.token stands.readable 1
  rw [scanFrom_of_rendered_cons trailing readable] at scanned
  exact ⟨first, _, scanned, rfl, scanFrom_of_rendered trailing readable.2.2.2⟩

theorem isSpelled (stands : Stands text before head token after) : token.IsSpelled :=
  stands.spelled token (List.mem_append_right _ (List.mem_cons_self ..))

theorem linefeed_notMem_head (stands : Stands text before head token after) (oneLine : '\n' ∉ text) : '\n' ∉ head := by
  obtain ⟨more, split, _⟩ := stands.trailing
  rw [split, List.mem_append, not_or] at oneLine
  exact oneLine.1

/-- The same tokens stand in the same part of the text. -/
theorem head_eq {headToo rest : List Char} (stands : Stands text before head token after)
    (leading : Rendered before headToo) (split : text = headToo ++ (token.spelling ++ rest)) : head = headToo := by
  obtain ⟨more, whole, _⟩ := stands.trailing
  have spelled : ∀ part ∈ before, part.IsSpelled := fun part member => stands.spelled part (List.mem_append_left _ member)
  exact stands.leading.eq_of_append_eq leading spelled (stands.isSpelled.noSpace more) (stands.isSpelled.noSpace rest)
    (whole.symm.trans split)

section Pair

variable {headToo : List Char} {beforeToo afterToo : List Token} {tokenToo : Token}

/-- A token with fewer tokens before it stands further to the left. -/
theorem length_lt (stands : Stands text before head token after)
    (standsToo : Stands text beforeToo headToo tokenToo afterToo) (fewer : before.length < beforeToo.length) :
    head.length < headToo.length := by
  have same := stands.map_token_scan.symm.trans standsToo.map_token_scan
  obtain ⟨middle, rfl, _⟩ := exists_middle same fewer
  obtain ⟨first, more, rfl, leading, _⟩ := standsToo.leading.exists_split
  obtain ⟨rest, whole, _⟩ := standsToo.trailing
  rw [List.append_assoc, List.append_assoc] at whole
  obtain rfl := stands.head_eq leading whole
  obtain ⟨c, others, spelling, _⟩ := stands.isSpelled.exists_spelling
  rw [List.length_append, List.length_append, spelling, List.length_cons]
  omega

theorem eq_of_length_eq (stands : Stands text before head token after)
    (standsToo : Stands text beforeToo headToo tokenToo afterToo) (same : before.length = beforeToo.length) :
    before = beforeToo ∧ head = headToo ∧ token = tokenToo ∧ after = afterToo := by
  have tokens := stands.map_token_scan.symm.trans standsToo.map_token_scan
  obtain ⟨rfl, others⟩ := List.append_inj tokens same
  obtain ⟨rfl, rfl⟩ := List.cons.inj others
  obtain ⟨more, whole, _⟩ := standsToo.trailing
  exact ⟨rfl, stands.head_eq standsToo.leading whole, rfl, rfl⟩

end Pair

end Stands

/-- Every lexeme of a text with the form of a pattern stands somewhere. -/
theorem exists_stands {text : List Char} (valid : IsSyntactic text) {first last : List Lexeme} {lexeme : Lexeme}
    (scanned : scan text = first ++ lexeme :: last) : ∃ head,
      Stands text (first.map Lexeme.token) head lexeme.token (last.map Lexeme.token) ∧ lexeme.column = columnPast 1 head := by
  obtain ⟨written, spelled, rendered⟩ := valid
  have tokens : written.write tokenScript = first.map Lexeme.token ++ lexeme.token :: last.map Lexeme.token := by
    rw [← map_token_scan spelled rendered, scanned, List.map_append, List.map_cons]
  rw [tokens] at spelled rendered
  obtain ⟨head, more, split, leading, trailing⟩ := rendered.exists_split
  have stands : Stands text (first.map Lexeme.token) head lexeme.token (last.map Lexeme.token) :=
    ⟨⟨written, tokens⟩, spelled, leading, more, split, trailing⟩
  obtain ⟨firstToo, lastToo, scannedToo, same, _⟩ := stands.exists_scan
  have lengths : firstToo.length = first.length := by
    rw [← List.length_map Lexeme.token, same, List.length_map]
  obtain ⟨_, others⟩ := List.append_inj (scannedToo.symm.trans scanned) lengths
  exact ⟨head, stands, congrArg Lexeme.column (List.cons.inj others).1.symm⟩

end Utterance.Pattern
