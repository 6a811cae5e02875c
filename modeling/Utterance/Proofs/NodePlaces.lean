import Utterance.Proofs.Parsing
import Utterance.Proofs.Places

/-!
# Where the nodes of a pattern stand

Every literal, every name and every start of a group in a pattern makes one node of its table. The nodes lie in the
order of the text, each in the place of its token and below the innermost group that is open there (`places_parse`).
-/

namespace Utterance
set_option autoImplicit false

/-- The characters of a text that a place extends over. -/
def Location.slice (place : Location) (text : List Char) : List Char :=
  (text.drop (place.column - 1).toNat).take (place.endColumn - place.column).toNat

namespace Pattern

/-- The token makes a node: a literal, the name of a symbol or the start of a group. -/
def Token.makesNode : Token → Bool
  | .literal _ => true
  | .name _ => true
  | .openGroup => true
  | _ => false

/-! ## Tokens and marks -/

/-- The lexeme that a mark makes a node for. -/
def Mark.lexeme? : Mark → Option Lexeme
  | .literal spelling column => some ⟨.literal spelling, column⟩
  | .symbol name column => some ⟨.name name, column⟩
  | .openGroup column => some ⟨.openGroup, column⟩
  | _ => none

/-- The lexemes that make a node. -/
def nodeLexemes (lexemes : List Lexeme) : List Lexeme :=
  lexemes.filter fun lexeme => lexeme.token.makesNode

namespace Reading

/-- The name that was read and is not yet part of a mark. -/
def pendingName (reading : Reading) : List Lexeme :=
  match reading.expecting with
  | .nameEnd name column => [⟨.name name, column⟩]
  | _ => []

variable {depth : Nat} {lexeme : Lexeme} {next : Reading} {here : List Mark}

theorem nodeLexemes_startItem (step : startItem depth lexeme = some (next, here)) :
    nodeLexemes [lexeme] = here.filterMap Mark.lexeme? ++ next.pendingName := by
  obtain ⟨token, column⟩ := lexeme
  cases token <;> cases step <;> rfl

theorem nodeLexemes_followItem (step : followItem depth lexeme = some (next, here)) :
    nodeLexemes [lexeme] = here.filterMap Mark.lexeme? ++ next.pendingName := by
  obtain ⟨token, column⟩ := lexeme
  cases token with
  | bar =>
    cases depth with
    | zero => cases step
    | succ depth =>
      cases step
      rfl
  | closeGroup =>
    cases depth with
    | zero => cases step
    | succ depth =>
      cases step
      rfl
  | _ => exact @nodeLexemes_startItem depth _ _ _ step

theorem nodeLexemes_repeatItem (step : repeatItem depth lexeme = some (next, here)) :
    nodeLexemes [lexeme] = here.filterMap Mark.lexeme? ++ next.pendingName := by
  obtain ⟨token, column⟩ := lexeme
  cases token with
  | plus | star | question | openCount =>
    cases step
    rfl
  | _ => exact @nodeLexemes_followItem depth _ _ _ step

/-- A step loses no lexeme that makes a node. -/
theorem nodeLexemes_step {reading : Reading} (step : reading.step lexeme = some (next, here)) :
    reading.pendingName ++ nodeLexemes [lexeme] = here.filterMap Mark.lexeme? ++ next.pendingName := by
  obtain ⟨expecting, depth⟩ := reading
  cases expecting with
  | item => exact nodeLexemes_startItem step
  | repetition => exact nodeLexemes_repeatItem step
  | more => exact nodeLexemes_followItem step
  | _ =>
    obtain ⟨token, column⟩ := lexeme
    cases token <;> cases step <;> rfl

/-- The marks of lexemes make the nodes that the lexemes make, in the same order. -/
theorem filterMap_lexeme?_marks {reading : Reading} {lexemes : List Lexeme} {marks : List Mark}
    (read : reading.marks lexemes = .ok marks) :
    marks.filterMap Mark.lexeme? = reading.pendingName ++ nodeLexemes lexemes := by
  induction lexemes generalizing reading marks with
  | nil =>
    obtain ⟨rfl | rfl, rfl⟩ := marks_nil_eq_ok.1 read
    · rfl
    · rfl
  | cons lexeme rest ih =>
    obtain ⟨next, here, more, step, onward, rfl⟩ := marks_cons_eq_ok.1 read
    have split : nodeLexemes (lexeme :: rest) = nodeLexemes [lexeme] ++ nodeLexemes rest :=
      List.filter_append [lexeme] rest
    rw [List.filterMap_append, ih onward, split, ← List.append_assoc, ← List.append_assoc, nodeLexemes_step step]

end Reading

/-! ## Marks and nodes -/

/-- The node has the content and the place of a lexeme. -/
inductive Lexeme.Makes (source : Source) : Lexeme → Node → Prop where
  | literal {spelling : List Char} {column : Nat} {node : Node} (leaf : node.child = none) (kind : node.kind = .literal)
      (content : node.content = String.ofList (literalText spelling))
      (location : node.location = some (source.span column spelling.length)) :
      Makes source ⟨.literal spelling, column⟩ node
  | name {name : List Char} {column : Nat} {node : Node} (leaf : node.child = none) (kind : node.kind = .symbol)
      (content : node.content = String.ofList name) (location : node.location = some (source.span column name.length)) :
      Makes source ⟨.name name, column⟩ node
  | group {column : Nat} {node : Node} (nested : node.child.isSome = true)
      (location : node.location = some (source.point column)) : Makes source ⟨.openGroup, column⟩ node

theorem filterMap_lexeme?_repeat? (repeated : Option WrittenRepeat) :
    (markScript.repeat? repeated).filterMap Mark.lexeme? = [] := by
  obtain _ | r := repeated
  · rfl
  · cases r <;> rfl

section Makes

variable (source : Source)

theorem WrittenAtom.exists_makes (atom : WrittenAtom) (repetition : Repetition) (parent : Option Nat) (closes : Bool)
    (next : Option Nat) : ∃ lexeme, atom.mark.lexeme? = some lexeme ∧
      lexeme.Makes source (placed (atom.node source) repetition parent closes next) := by
  cases atom with
  | literal spelling column => exact ⟨_, rfl, .literal rfl rfl rfl rfl⟩
  | symbol name column => exact ⟨_, rfl, .name rfl rfl rfl rfl⟩

mutual

theorem Item.makes_nodes : (item : Item WrittenAtom Nat WrittenRepeat) → (index : Nat) → (parent : Option Nat) →
    (closes : Bool) → (next : Option Nat) → List.Forall₂ (Lexeme.Makes source)
      ((item.write markScript).filterMap Mark.lexeme?) (item.nodes source index parent closes next)
  | .atom content repeated, index, parent, closes, next => by
    obtain ⟨lexeme, made, makes⟩ :=
      content.exists_makes source (WrittenRepeat.repetition repeated) parent closes next
    have marks : ((Item.atom content repeated).write markScript).filterMap Mark.lexeme? = [lexeme] := by
      rw [Item.write, List.filterMap_append, filterMap_lexeme?_repeat?, List.append_nil]
      exact List.filterMap_cons_some made
    rw [marks]
    exact .cons makes .nil
  | .group column inner repeated, index, parent, closes, next => by
    have marks : ((Item.group column inner repeated).write markScript).filterMap Mark.lexeme? =
        ⟨.openGroup, column⟩ :: (inner.write markScript).filterMap Mark.lexeme? := by
      have opening : (markScript.opening column).lexeme? = some ⟨.openGroup, column⟩ := rfl
      have closing : markScript.closing.lexeme? = none := rfl
      rw [Item.write, List.filterMap_append, List.filterMap_cons_some opening, List.filterMap_cons_none closing,
        filterMap_lexeme?_repeat?, List.append_nil]
    rw [marks]
    exact .cons (.group rfl rfl) (Choice.makes_nodes inner (index + 1) (some index))

theorem Phrase.makes_nodes : (phrase : Phrase WrittenAtom Nat WrittenRepeat) → (index : Nat) → (parent : Option Nat) →
    (closes : Bool) → (next : Option Nat) → List.Forall₂ (Lexeme.Makes source)
      ((phrase.write markScript).filterMap Mark.lexeme?) (phrase.nodes source index parent closes next)
  | .last item, index, parent, closes, next => Item.makes_nodes item index parent closes next
  | .cons item rest, index, parent, closes, next => by
    rw [Phrase.write, List.filterMap_append]
    exact List.rel_append (Item.makes_nodes item _ _ _ _) (Phrase.makes_nodes rest _ _ _ _)

theorem Choice.makes_nodes : (choice : Choice WrittenAtom Nat WrittenRepeat) → (index : Nat) → (parent : Option Nat) →
    List.Forall₂ (Lexeme.Makes source) ((choice.write markScript).filterMap Mark.lexeme?) (choice.nodes source index parent)
  | .last phrase, index, parent => Phrase.makes_nodes phrase index parent false none
  | .cons phrase rest, index, parent => by
    have bar : markScript.bar.lexeme? = none := rfl
    rw [Choice.write, List.filterMap_append, List.filterMap_cons_none bar]
    exact List.rel_append (Phrase.makes_nodes phrase _ _ _ _) (Choice.makes_nodes rest _ _)

end

end Makes

/-! ## Open groups -/

/-- The groups that are open after a token, the innermost first, by the index of their node. -/
def openAfter (index : Nat) (opened : List Nat) : Token → List Nat
  | .openGroup => index :: opened
  | .closeGroup => opened.tail
  | _ => opened

/-- The groups that are open after tokens, where the next node has an index. -/
def openPast : (index : Nat) → (opened : List Nat) → List Token → List Nat
  | _, opened, [] => opened
  | index, opened, token :: rest => openPast (index + token.makesNode.toNat) (openAfter index opened token) rest

/-- For each node that tokens make, the innermost group that is open before it. -/
def enclosing : (index : Nat) → (opened : List Nat) → List Token → List (Option Nat)
  | _, _, [] => []
  | index, opened, token :: rest =>
    (if token.makesNode then [opened.head?] else []) ++
      enclosing (index + token.makesNode.toNat) (openAfter index opened token) rest

theorem getElem?_enclosing (before after : List Token) {token : Token} (makes : token.makesNode = true) (index : Nat)
    (opened : List Nat) : (enclosing index opened (before ++ token :: after))[before.countP Token.makesNode]? =
      some (openPast index opened before).head? := by
  induction before generalizing index opened with
  | nil => simp [enclosing, openPast, makes]
  | cons first before ih =>
    rw [List.cons_append, enclosing, openPast, ← ih]
    cases own : first.makesNode with
    | false => simp [own]
    | true => simp [own]

theorem enclosing_repeat? (index : Nat) (opened : List Nat) (repeated : Option WrittenRepeat) (rest : List Token) :
    enclosing index opened (tokenScript.repeat? repeated ++ rest) = enclosing index opened rest := by
  obtain _ | r := repeated
  · rfl
  · cases r <;> rfl

section Enclosing

variable (source : Source)

mutual

theorem Item.enclosing_write : (item : Item WrittenAtom Nat WrittenRepeat) → (index : Nat) → (opened : List Nat) →
    (closes : Bool) → (next : Option Nat) → (rest : List Token) →
    enclosing index opened (item.write tokenScript ++ rest) =
      (item.nodes source index opened.head? closes next).map Node.parent ++ enclosing (index + item.size) opened rest
  | .atom content repeated, index, opened, closes, next, rest => by
    rw [Item.write, List.append_assoc]
    cases content with
    | literal spelling column => exact congrArg (opened.head? :: ·) (enclosing_repeat? (index + 1) opened repeated rest)
    | symbol name column => exact congrArg (opened.head? :: ·) (enclosing_repeat? (index + 1) opened repeated rest)
  | .group column inner repeated, index, opened, closes, next, rest => by
    have inside := Choice.enclosing_write inner (index + 1) (index :: opened)
      (.closeGroup :: (tokenScript.repeat? repeated ++ rest))
    have after := enclosing_repeat? (index + 1 + inner.size) opened repeated rest
    have signs : (Item.group column inner repeated).write tokenScript ++ rest =
        .openGroup :: (inner.write tokenScript ++ .closeGroup :: (tokenScript.repeat? repeated ++ rest)) := by
      simp [Item.write]
    have size : index + (Item.group column inner repeated).size = index + 1 + inner.size := by
      rw [Item.size]
      omega
    rw [signs, size, ← after]
    exact congrArg (opened.head? :: ·) inside

theorem Phrase.enclosing_write : (phrase : Phrase WrittenAtom Nat WrittenRepeat) → (index : Nat) → (opened : List Nat) →
    (closes : Bool) → (next : Option Nat) → (rest : List Token) →
    enclosing index opened (phrase.write tokenScript ++ rest) =
      (phrase.nodes source index opened.head? closes next).map Node.parent ++ enclosing (index + phrase.size) opened rest
  | .last item, index, opened, closes, next, rest => Item.enclosing_write item index opened closes next rest
  | .cons item others, index, opened, closes, next, rest => by
    rw [Phrase.write, List.append_assoc, Item.enclosing_write item index opened false (some (index + item.size)),
      Phrase.enclosing_write others (index + item.size) opened closes next, Phrase.nodes, List.map_append,
      List.append_assoc, Phrase.size, Nat.add_assoc]

theorem Choice.enclosing_write : (choice : Choice WrittenAtom Nat WrittenRepeat) → (index : Nat) → (opened : List Nat) →
    (rest : List Token) → enclosing index opened (choice.write tokenScript ++ rest) =
      (choice.nodes source index opened.head?).map Node.parent ++ enclosing (index + choice.size) opened rest
  | .last phrase, index, opened, rest => Phrase.enclosing_write phrase index opened false none rest
  | .cons phrase others, index, opened, rest => by
    have bar : enclosing (index + phrase.size) opened (.bar :: (others.write tokenScript ++ rest)) =
        enclosing (index + phrase.size) opened (others.write tokenScript ++ rest) := rfl
    rw [Choice.write, List.append_assoc, Phrase.enclosing_write phrase index opened true (some (index + phrase.size)),
      List.cons_append, tokenScript_bar, bar, Choice.enclosing_write others (index + phrase.size) opened, Choice.nodes,
      List.map_append, List.append_assoc, Choice.size, Nat.add_assoc]

end

end Enclosing

/-! ## The place of a node -/

/-- What stands at an index of a list is related to what stands there in a list that is related member by member. -/
theorem exists_getElem?_of_forall₂ {α β : Type} {relation : α → β → Prop} {first : List α} {second : List β}
    (related : List.Forall₂ relation first second) {index : Nat} {a : α} (found : first[index]? = some a) :
    ∃ b, second[index]? = some b ∧ relation a b := by
  induction related generalizing index with
  | nil => cases found
  | cons here _ ih =>
    cases index with
    | zero =>
      cases found
      exact ⟨_, rfl, here⟩
    | succ index => exact ih found

/-- A lexeme that makes a node comes after those that make one before it. -/
theorem getElem?_nodeLexemes (first last : List Lexeme) {lexeme : Lexeme} (makes : lexeme.token.makesNode = true) :
    (nodeLexemes (first ++ lexeme :: last))[(first.map Lexeme.token).countP Token.makesNode]? = some lexeme := by
  induction first with
  | nil => simp [nodeLexemes, makes]
  | cons skipped first ih =>
    cases own : skipped.token.makesNode with
    | false => simpa [nodeLexemes, own] using ih
    | true => simpa [nodeLexemes, own] using ih

theorem exists_split_of_nodeLexemes {lexemes : List Lexeme} {lexeme : Lexeme} {index : Nat}
    (found : (nodeLexemes lexemes)[index]? = some lexeme) : ∃ first last, lexemes = first ++ lexeme :: last ∧
      lexeme.token.makesNode = true ∧ (first.map Lexeme.token).countP Token.makesNode = index := by
  induction lexemes generalizing index with
  | nil => cases found
  | cons skipped rest ih =>
    cases own : skipped.token.makesNode with
    | false =>
      have later : (nodeLexemes rest)[index]? = some lexeme := by simpa [nodeLexemes, own] using found
      obtain ⟨first, last, rfl, makes, count⟩ := ih later
      exact ⟨skipped :: first, last, rfl, makes, by simp [own, count]⟩
    | true =>
      have here : (skipped :: nodeLexemes rest)[index]? = some lexeme := by simpa [nodeLexemes, own] using found
      cases index with
      | zero =>
        cases here
        exact ⟨[], rest, rfl, own, rfl⟩
      | succ index =>
        obtain ⟨first, last, rfl, makes, count⟩ := ih here
        exact ⟨skipped :: first, last, rfl, makes, by simp [own, count]⟩

/-- The part of a text that a place with the part's column and length extends over. -/
theorem Source.slice_span (source : Source) (head part more : List Char) :
    (source.span (1 + head.length) part.length).slice (head ++ (part ++ more)) = part := by
  have start : ((source.span (1 + head.length) part.length).column - 1).toNat = head.length := by
    simp only [Source.span]
    omega
  have extent : ((source.span (1 + head.length) part.length).endColumn -
      (source.span (1 + head.length) part.length).column).toNat = part.length := by
    simp only [Source.span]
    omega
  rw [Location.slice, start, extent, List.drop_left, List.take_left]

/-- The node has the content of a token, and its place is where the token stands in the text. -/
inductive Token.Fills (text : List Char) (place : Location) (node : Node) : Token → Prop where
  | literal {spelling : List Char} (leaf : node.child = none) (kind : node.kind = .literal)
      (slice : place.slice text = spelling) (content : IsLiteral spelling node.content.toList) :
      Fills text place node (.literal spelling)
  | name {name : List Char} (leaf : node.child = none) (kind : node.kind = .symbol)
      (slice : place.slice text = name) (content : node.content.toList = name) : Fills text place node (.name name)
  | group (nested : node.child.isSome = true) (opening : text[(place.column - 1).toNat]? = some '(') :
      Fills text place node .openGroup

/-- The node is that of a token of the source, which stands right after `head`, and its parent is the innermost group
that is open after the tokens before it. -/
structure Source.Places (source : Source) (before : List Token) (head : List Char) (token : Token) (node : Node) : Prop where
  location : ∃ place, node.location = some place ∧ place.file = source.file ∧ place.line = source.line ∧
    place.column = head.length + 1 ∧ token.Fills source.pattern.toList place node
  parent : node.parent = (openPast 0 [] before).head?

theorem Lexeme.Makes.exists_location {source : Source} {before after : List Token} {head : List Char} {token : Token}
    {node : Node} (stands : Stands source.pattern.toList before head token after)
    (makes : Lexeme.Makes source ⟨token, 1 + head.length⟩ node) :
    ∃ place, node.location = some place ∧ place.file = source.file ∧ place.line = source.line ∧
      place.column = head.length + 1 ∧ token.Fills source.pattern.toList place node := by
  obtain ⟨more, split, _⟩ := stands.trailing
  have column : ((1 + head.length : Nat) : Int) = head.length + 1 := by omega
  cases makes with
  | @literal spelling _ _ leaf kind content location =>
    obtain ⟨text, literal⟩ := stands.isSpelled
    refine ⟨_, location, rfl, rfl, column, .literal leaf kind ?_ ?_⟩
    · rw [split]
      exact source.slice_span head spelling more
    · rw [content, String.toList_ofList, literal.literalText_eq]
      exact literal
  | @name name _ _ leaf kind content location =>
    refine ⟨_, location, rfl, rfl, column, .name leaf kind ?_ ?_⟩
    · rw [split]
      exact source.slice_span head name more
    · rw [content, String.toList_ofList]
  | group nested location =>
    refine ⟨_, location, rfl, rfl, column, .group nested ?_⟩
    have start : ((source.point (1 + head.length)).column - 1).toNat = head.length := by
      simp only [Source.point]
      omega
    rw [split, start, List.getElem?_append_right (Nat.le_refl _), Nat.sub_self]
    rfl

section Accepted

variable {source : Source} {table : NodeTable}

/-- The nodes of an accepted pattern are made by the lexemes of its text. -/
theorem exists_written_nodes [Limits] (accepted : parse source = .ok table) : ∃ written : Written,
    IsSyntactic source.pattern.toList ∧ written.write tokenScript = (scan source.pattern.toList).map Lexeme.token ∧
      table.nodes = (written.nodes source 0 none false none).toArray ∧
      List.Forall₂ (Lexeme.Makes source) (nodeLexemes (scan source.pattern.toList))
        (written.nodes source 0 none false none) := by
  obtain ⟨marks, steps, read, stepped, finished⟩ := parse_eq_ok_iff.1 accepted
  have made := Reading.filterMap_lexeme?_marks read
  obtain ⟨written, tokens, rfl⟩ := Reading.exists_written read
  obtain ⟨proper, rendered, built⟩ := written.build_of_buildSteps tokens stepped
  obtain rfl := Except.ok.inj (finished.symm.trans built)
  refine ⟨written, ⟨written, proper.1, rendered⟩, tokens, rfl, ?_⟩
  have nodes := Phrase.makes_nodes source written 0 none false none
  rwa [made] at nodes

/-- A token that makes a node has one, behind those of the tokens before it. -/
theorem Stands.exists_node [Limits] (oneLine : '\n' ∉ source.pattern.toList) (accepted : parse source = .ok table)
    {before after : List Token} {head : List Char} {token : Token}
    (stands : Stands source.pattern.toList before head token after) (makes : token.makesNode = true) :
    ∃ node, table.nodes[before.countP Token.makesNode]? = some node ∧ source.Places before head token node := by
  obtain ⟨written, _, tokens, nodes, made⟩ := exists_written_nodes accepted
  obtain ⟨first, last, scanned, rfl, rfl⟩ := stands.exists_scan
  rw [columnPast_of_oneLine (stands.linefeed_notMem_head oneLine)] at scanned
  rw [scanned] at made tokens
  obtain ⟨node, found, fills⟩ := exists_getElem?_of_forall₂ made (getElem?_nodeLexemes first last makes)
  refine ⟨node, ?_, fills.exists_location stands, ?_⟩
  · rw [nodes, List.getElem?_toArray]
    exact found
  · have parents := Phrase.enclosing_write source written 0 [] false none []
    have parent := getElem?_enclosing (first.map Lexeme.token) (last.map Lexeme.token) makes 0 []
    rw [List.append_nil, tokens, List.map_append, List.map_cons, enclosing, List.append_nil] at parents
    rw [parents, List.getElem?_map] at parent
    exact Option.some.inj ((congrArg (Option.map Node.parent) found).symm.trans parent)

/-- Every node is that of a token. -/
theorem exists_stands_of_node [Limits] (oneLine : '\n' ∉ source.pattern.toList) (accepted : parse source = .ok table)
    {index : Nat} {node : Node} (found : table.nodes[index]? = some node) : ∃ before head token after,
      Stands source.pattern.toList before head token after ∧ before.countP Token.makesNode = index ∧
        source.Places before head token node := by
  obtain ⟨written, valid, _, nodes, made⟩ := exists_written_nodes accepted
  rw [nodes, List.getElem?_toArray] at found
  obtain ⟨lexeme, isLexeme, _⟩ := exists_getElem?_of_forall₂ made.flip found
  obtain ⟨first, last, scanned, makes, rfl⟩ := exists_split_of_nodeLexemes isLexeme
  obtain ⟨head, stands, _⟩ := exists_stands valid scanned
  obtain ⟨same, again, places⟩ := stands.exists_node oneLine accepted makes
  rw [nodes, List.getElem?_toArray, found] at again
  cases again
  exact ⟨_, head, _, _, stands, rfl, places⟩

/-- Of two tokens, the one with fewer nodes before it stands further to the left. -/
theorem Stands.length_lt_of_countP {text head headToo : List Char} {before after beforeToo afterToo : List Token}
    {token tokenToo : Token} (stands : Stands text before head token after)
    (standsToo : Stands text beforeToo headToo tokenToo afterToo)
    (fewer : before.countP Token.makesNode < beforeToo.countP Token.makesNode) : head.length < headToo.length := by
  refine stands.length_lt standsToo (Nat.lt_of_not_le fun longer => ?_)
  have tokens := stands.map_token_scan.symm.trans standsToo.map_token_scan
  have starts : beforeToo <+: before :=
    List.prefix_of_prefix_length_le (List.prefix_append ..) ⟨_, tokens⟩ longer
  have count : beforeToo.countP Token.makesNode ≤ before.countP Token.makesNode := starts.sublist.countP_le
  omega

theorem column_lt_of_lt [Limits] (oneLine : '\n' ∉ source.pattern.toList) (accepted : parse source = .ok table)
    {first second : Nat} (less : first < second) {one other : Node} (found : table.nodes[first]? = some one)
    (foundToo : table.nodes[second]? = some other) {place placeToo : Location} (located : one.location = some place)
    (locatedToo : other.location = some placeToo) : place.column < placeToo.column := by
  obtain ⟨before, head, token, after, stands, rfl, places⟩ := exists_stands_of_node oneLine accepted found
  obtain ⟨beforeToo, headToo, tokenToo, afterToo, standsToo, rfl, placesToo⟩ :=
    exists_stands_of_node oneLine accepted foundToo
  obtain ⟨_, isPlace, _, _, column, _⟩ := places.location
  obtain ⟨_, isPlaceToo, _, _, columnToo, _⟩ := placesToo.location
  obtain rfl := Option.some.inj (isPlace.symm.trans located)
  obtain rfl := Option.some.inj (isPlaceToo.symm.trans locatedToo)
  have left := stands.length_lt_of_countP standsToo less
  omega

/-- The nodes of an accepted pattern of one line are those of its literals, names and starts of groups, each in the
place of its token. They lie in the order of their columns, and each such token has exactly one. -/
theorem places_parse [Limits] (oneLine : '\n' ∉ source.pattern.toList) (accepted : parse source = .ok table) :
    (∀ (index : Nat) (node : Node), table.nodes[index]? = some node → ∃ before head token after,
      Stands source.pattern.toList before head token after ∧ source.Places before head token node) ∧
    (∀ (first second : Nat) (one other : Node) (place placeToo : Location), first < second →
      table.nodes[first]? = some one → table.nodes[second]? = some other →
      one.location = some place → other.location = some placeToo → place.column < placeToo.column) ∧
    ∀ before head token after, Stands source.pattern.toList before head token after → token.makesNode = true →
      ∃! index : Nat, ∃ node, table.nodes[index]? = some node ∧ source.Places before head token node := by
  refine ⟨?_, ?_, ?_⟩
  · intro index node found
    obtain ⟨before, head, token, after, stands, _, places⟩ := exists_stands_of_node oneLine accepted found
    exact ⟨before, head, token, after, stands, places⟩
  · intro first second one other place placeToo less found foundToo
    exact column_lt_of_lt oneLine accepted less found foundToo
  · intro before head token after stands makes
    obtain ⟨node, found, places⟩ := stands.exists_node oneLine accepted makes
    refine ⟨_, ⟨node, found, places⟩, ?_⟩
    rintro index ⟨other, foundToo, placesToo⟩
    -- Two nodes in one place have the same column, so that neither index is below the other.
    obtain ⟨place, located, _, _, column, _⟩ := places.location
    obtain ⟨placeToo, locatedToo, _, _, columnToo, _⟩ := placesToo.location
    obtain less | same | more := Nat.lt_trichotomy index (before.countP Token.makesNode)
    · have left := column_lt_of_lt oneLine accepted less foundToo found locatedToo located
      omega
    · exact same
    · have right := column_lt_of_lt oneLine accepted more found foundToo located locatedToo
      omega

/-- Groups in a group, with spaces, a repeat of each kind and an escaped quote. -/
def bracketedSource : Source := ⟨" ( 'a\\'b'+ | <c_1>\x7b2\x7d ( \"d\" )* ) ? 'e'", "rules.txt", 7⟩

section
open scoped Workstation

theorem places_parse_bracketed : ∃ table, parse bracketedSource = .ok table ∧
    table.nodes.toList.map Node.content = ["", "a'b", "c_1", "", "d", "e"] ∧
    table.nodes.toList.map Node.parent = [none, some 0, some 0, some 0, some 3, none] ∧
    table.nodes.toList.map Node.location =
      [some ⟨"rules.txt", 7, 2, 0⟩, some ⟨"rules.txt", 7, 4, 10⟩, some ⟨"rules.txt", 7, 15, 18⟩,
        some ⟨"rules.txt", 7, 23, 0⟩, some ⟨"rules.txt", 7, 25, 28⟩, some ⟨"rules.txt", 7, 36, 39⟩] ∧
    ∀ before head token after, Stands bracketedSource.pattern.toList before head token after → token.makesNode = true →
      ∃! index : Nat, ∃ node, table.nodes[index]? = some node ∧ bracketedSource.Places before head token node :=
  ⟨_, rfl, by decide +kernel, by decide +kernel, by decide +kernel, (places_parse (by decide +kernel) rfl).2.2⟩

end

end Accepted

end Pattern

end Utterance
