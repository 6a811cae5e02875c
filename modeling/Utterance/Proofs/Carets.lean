import Utterance.Error
import Utterance.Proofs.DiagnosticRows
import Utterance.Proofs.Offences
import Utterance.Proofs.Refusal
import Utterance.Proofs.Rows

/-!
# Carets under a fault

A refused pattern of one line is displayed with its row and a row of carets below it. The first caret stands under the
column that is blamed, whatever number the line has, and there are as many carets as the blamed token has characters
(`display_parse`). Nothing is displayed only if the line has too many lines before it, or a row would be too long.
-/

namespace Utterance.Text
set_option autoImplicit false

/-! ## Texts in one row -/

theorem linefeed_notMem_hexDigits (width n : Nat) : '\n' ∉ hexDigits width n := by
  induction width generalizing n with
  | zero => exact List.not_mem_nil
  | succ width ih =>
    rw [hexDigits, List.mem_append, not_or, List.mem_singleton]
    exact ⟨ih _, Ne.symm (Nat.digitChar_ne '\n' rfl)⟩

theorem linefeed_notMem_codePointEscape (n : Nat) : '\n' ∉ codePointEscape n := by
  unfold codePointEscape
  split
  · simp [linefeed_notMem_hexDigits]
  · split
    · simp [linefeed_notMem_hexDigits]
    · simp [linefeed_notMem_hexDigits]

theorem linefeed_notMem_escaped {quote : Char} (isQuote : quote ≠ '\n') (c : Char) : '\n' ∉ escaped quote c := by
  unfold escaped
  by_cases feed : c = '\n'
  · subst feed
    simp [Ne.symm isQuote]
  · have plain : '\n' ∉ [c] := by simpa using Ne.symm feed
    split_ifs
    · simp [Ne.symm feed]
    · simp
    · simp
    · exact plain
    · exact linefeed_notMem_codePointEscape _

/-- A quoted text is in one row. -/
theorem linefeed_notMem_quoted (text : String) : '\n' ∉ (quoted text).toList := by
  have isQuote : quoteFor text.toList ≠ '\n' := by
    unfold quoteFor
    split <;> decide
  have inside : '\n' ∉ text.toList.flatMap (escaped (quoteFor text.toList)) := by
    rw [List.mem_flatMap]
    rintro ⟨c, _, member⟩
    exact linefeed_notMem_escaped isQuote c member
  rw [quoted, String.toList_ofList]
  simp [Ne.symm isQuote, inside]

end Utterance.Text

namespace Utterance
set_option autoImplicit false

theorem not_isGraphic_linefeed : isGraphic '\n' = false := by decide

theorem Pattern.Fault.linefeed_notMem_reason (fault : Pattern.Fault) : '\n' ∉ fault.reason.toList := by
  have graphic : ∀ {text : List Char}, text.all isGraphic = true → '\n' ∉ text :=
    notMem_of_isGraphic not_isGraphic_linefeed
  have number := notMem_number not_isGraphic_linefeed
  cases fault with
  | strayCharacter c => exact notMem_append (graphic (by decide)) (Text.linefeed_notMem_quoted _)
  | unexpectedToken spelling => exact notMem_append (graphic (by decide)) (Text.linefeed_notMem_quoted _)
  | unexpectedEnd => exact graphic (by decide)
  | emptyLiteral => exact graphic (by decide)
  | emptyRange least most =>
    have opening : '\n' ∉ "repeat range \x7b".toList := graphic (by decide)
    have comma : '\n' ∉ ",".toList := graphic (by decide)
    have low := notMem_append opening (number least)
    have high := notMem_append (notMem_append low comma) (number most)
    exact notMem_append high (graphic (by decide))

theorem Pattern.Fault.linefeed_notMem_code (fault : Pattern.Fault) : '\n' ∉ fault.code.toList := by
  have first : '\n' ∉ "E0001".toList := notMem_of_isGraphic not_isGraphic_linefeed (by decide)
  have second : '\n' ∉ "E0002".toList := notMem_of_isGraphic not_isGraphic_linefeed (by decide)
  cases fault with
  | emptyRange least most => exact second
  | _ => exact first

/-- There is no line feed in what is said about a fault, if there is none in the name of the file. -/
theorem Pattern.Fault.isFree_diagnostic (fault : Pattern.Fault) (pattern : String) {place : Location}
    (plainFile : '\n' ∉ place.file.toList) :
    (UserError.pattern (fault.error pattern place)).diagnostic.IsFree '\n' where
  message :=
    notMem_append (notMem_of_isGraphic not_isGraphic_linefeed (by decide)) fault.linefeed_notMem_reason
  code := by
    rintro code ⟨⟩
    exact fault.linefeed_notMem_code
  help := by
    cases fault with
    | emptyRange least most =>
      rintro help ⟨⟩
      exact notMem_of_isGraphic not_isGraphic_linefeed (by decide)
    | _ => exact nofun
  note := nofun
  label := by
    cases fault with
    | emptyLiteral =>
      rintro label ⟨⟩
      exact notMem_of_isGraphic not_isGraphic_linefeed (by decide)
    | _ => exact nofun
  file := by
    rintro place ⟨⟩
    exact plainFile

/-! ## Rows of a diagnostic -/

/-- The characters of a row, without its tints. -/
def Row.chars (row : Row) : List Char :=
  row.flatMap fun span => span.text.toList

theorem Row.toList_render (row : Row) : (Row.render false row).toList = row.chars := by
  rw [Row.render, String.toList_join, List.flatMap_map]
  rfl

theorem Row.IsFree.notMem_chars {row : Row} {c : Char} (free : row.IsFree c) : c ∉ row.chars := by
  rw [Row.chars, List.mem_flatMap]
  rintro ⟨span, member, inside⟩
  exact free span member inside

namespace Diagnostic

/-- A diagnostic without line feeds in its rows is written in these rows. -/
theorem rows_render {diagnostic : Diagnostic} {sources : List SourceText}
    (plain : ∀ row ∈ diagnostic.rows sources, '\n' ∉ Row.chars row) :
    Text.rows (diagnostic.render sources false).toList = (diagnostic.rows sources).map Row.chars := by
  have rendered : ((diagnostic.rows sources).map (Row.render false)).map String.toList =
      (diagnostic.rows sources).map Row.chars := by
    rw [List.map_map]
    exact List.map_congr_left fun row _ => row.toList_render
  rw [render, String.toList_intercalate, rendered]
  exact Text.rows_intercalate (by simp [rows]) (List.forall_mem_map.2 plain)

section Chars

variable (width : Nat)

theorem chars_arrow (place : String) :
    Row.chars (arrow width place) = List.replicate width ' ' ++ ("--> " ++ place).toList := by
  simp [arrow, Row.chars, fill]

theorem chars_gutter : Row.chars (gutter width) = List.replicate (width + 1) ' ' ++ "|".toList := by
  simp [gutter, Row.chars, fill]

theorem chars_adviceRow (advice : String) :
    Row.chars (adviceRow width "help" advice) = List.replicate (width + 1) ' ' ++ ("= help: " ++ advice).toList := by
  simp [adviceRow, Row.chars, fill]

end Chars

end Diagnostic

/-! ## The display of a fault -/

namespace Pattern

/-- Why the rows up to the line of a source cannot be made. -/
def Source.lineFault? [Limits] (source : Source) : Option CapacityFault :=
  capacityFault? Limits.characters (source.line - 1) <|> roomFault? Limits.cells source.line

/-- Why carets cannot be set: the columns before them or the carets are too many. -/
def caretFault? [Limits] (column count : Nat) : Option CapacityFault :=
  capacityFault? Limits.characters ((column : Int) - 1) <|> capacityFault? Limits.characters count

/-- Why a fault cannot be displayed. -/
def Source.displayFault? [Limits] (source : Source) (column count : Nat) : Option CapacityFault :=
  source.lineFault? <|> caretFault? column count

/-- The rows show the error and the source. The first of `count` carets stands below the place that `column` has in the
row of the source. -/
structure Source.Displays (source : Source) (error : PatternError) (column count : Nat) (rows : List (List Char)) : Prop where
  header : rows[0]? = some ("error[" ++ error.code ++ "]: " ++ error.message).toList
  place : rows[1]? = some (List.replicate (toString source.line).length ' ' ++
    ("--> " ++ (source.file ++ ":" ++ toString source.line ++ ":" ++ toString column)).toList)
  gutter : rows[2]? = some (List.replicate ((toString source.line).length + 1) ' ' ++ "|".toList)
  shown : rows[3]? = some (toString source.line ++ " | " ++ source.pattern).toList
  carets : ∃ lead tail, rows[4]? = some (lead ++ List.replicate count '^' ++ tail) ∧ '^' ∉ lead ∧ '^' ∉ tail ∧
    lead.length = (toString source.line ++ " | ").length + (column - 1)
  advice : rows.drop 5 = [] ∨ ∃ help, error.help = some help ∧ rows.drop 5 =
    [List.replicate ((toString source.line).length + 1) ' ' ++ "|".toList,
      List.replicate ((toString source.line).length + 1) ' ' ++ ("= help: " ++ help).toList]

theorem toList_header (start opening code closing colon message : String) :
    (start ++ (opening ++ code ++ closing)).toList ++ ((colon ++ message).toList ++ []) =
      (start ++ opening ++ code ++ (closing ++ colon) ++ message).toList := by
  simp

section Display

variable {source : Source} {column : Nat} {endColumn : Int} {place : Location} {count : Nat} (fault : Fault)
  (isPlace : place = ⟨source.file, source.line, column, endColumn⟩)

include isPlace

/-- The row of carets: what stands before the first one is as long as the row of the source before the column. -/
theorem exists_carets (inside : 1 ≤ column) (extent : Diagnostic.extent place = count) {label : String}
    (noCaret : '^' ∉ label.toList) (number : String) : ∃ lead tail,
      Row.chars [⟨[.bold, .blue], fill (number.length + 1) ' ' ++ "| "⟩,
        ⟨[.bold, .red], Diagnostic.carets place ++ label⟩] = lead ++ List.replicate count '^' ++ tail ∧ '^' ∉ lead ∧
      '^' ∉ tail ∧ lead.length = (number ++ " | ").length + (column - 1) := by
  have indent : (Diagnostic.indent place).toNat = column - 1 := by
    simp only [isPlace, Diagnostic.indent]
    omega
  have bar : "| ".toList = ['|', ' '] := by decide +kernel
  have margin : " | ".length = 3 := by decide +kernel
  refine ⟨List.replicate (number.length + 1) ' ' ++ "| ".toList ++ List.replicate (column - 1) ' ', label.toList, ?_, ?_,
    noCaret, ?_⟩
  · simp [Row.chars, Diagnostic.carets, fill, indent, extent]
  · simp [bar]
  · simp only [List.length_append, List.length_replicate, bar, String.length_append, margin, List.length_cons,
      List.length_nil]

variable (oneLine : '\n' ∉ source.pattern.toList) (first : 1 ≤ source.line)

include oneLine first

theorem row?_sources : place.row? (fault.error source.pattern place).sources = some source.pattern := by
  have sources : (fault.error source.pattern place).sources = [⟨place.file, source.pattern, place.line⟩] := rfl
  have positive : ¬source.line < 1 := by omega
  rw [sources, isPlace]
  simp [Location.row?, SourceText.row?, positive, Text.rows_of_notMem oneLine]

theorem exists_rows : ∃ label advice, '^' ∉ label.toList ∧
    (advice = [] ∨ ∃ help, fault.help = some help ∧
      advice = [Diagnostic.gutter (toString source.line).length,
        Diagnostic.adviceRow (toString source.line).length "help" help]) ∧
    (UserError.pattern (fault.error source.pattern place)).diagnostic.rows (fault.error source.pattern place).sources =
      [⟨[.bold, .red], "error" ++ ("[" ++ fault.code ++ "]")⟩,
        ⟨[.bold], ": " ++ (fault.error source.pattern place).message⟩] ::
      Diagnostic.arrow (toString source.line).length (source.point column).text ::
      Diagnostic.gutter (toString source.line).length ::
      [⟨[.bold, .blue], toString source.line ++ " | "⟩, ⟨[], source.pattern⟩] ::
      [⟨[.bold, .blue], fill ((toString source.line).length + 1) ' ' ++ "| "⟩,
        ⟨[.bold, .red], Diagnostic.carets place ++ label⟩] :: advice := by
  have shown := row?_sources fault isPlace oneLine first
  have located : (UserError.pattern (fault.error source.pattern place)).diagnostic.location = some place := rfl
  rw [Diagnostic.rows, located]
  simp only [shown]
  subst isPlace
  cases fault with
  | emptyLiteral => exact ⟨" " ++ "literal has no text", [], by decide +kernel, .inl rfl, rfl⟩
  | emptyRange least most =>
    exact ⟨"", _, List.not_mem_nil, .inr ⟨"write the smaller count first", rfl, rfl⟩, rfl⟩
  | _ => exact ⟨"", [], List.not_mem_nil, .inl rfl, rfl⟩

/-- The rows of a fault that stands in one line. -/
theorem displays_render (inside : 1 ≤ column) (extent : Diagnostic.extent place = count)
    (plainFile : '\n' ∉ source.file.toList) :
    source.Displays (fault.error source.pattern place) column count
      (Text.rows ((UserError.pattern (fault.error source.pattern place)).diagnostic.render
        (fault.error source.pattern place).sources false).toList) := by
  obtain ⟨label, advice, noCaret, help, rows⟩ := exists_rows fault isPlace oneLine first
  have plain : ∀ row ∈ (UserError.pattern (fault.error source.pattern place)).diagnostic.rows
      (fault.error source.pattern place).sources, '\n' ∉ Row.chars row := by
    have free := fault.isFree_diagnostic source.pattern (isPlace ▸ plainFile : '\n' ∉ place.file.toList)
    intro row member
    refine Row.IsFree.notMem_chars (Diagnostic.isFree_rows not_isGraphic_linefeed free ?_ row member)
    rintro _ ⟨⟩ shown isShown
    rw [row?_sources fault isPlace oneLine first] at isShown
    obtain rfl : source.pattern = shown := Option.some.inj isShown
    exact oneLine
  rw [Diagnostic.rows_render plain, rows]
  refine ⟨?_, ?_, ?_, ?_, ?_, ?_⟩
  · have opening : "error" ++ "[" = "error[" := by decide +kernel
    have closing : "]" ++ ": " = "]: " := by decide +kernel
    have split := toList_header "error" "[" fault.code "]" ": " (fault.error source.pattern place).message
    rw [opening, closing] at split
    exact congrArg some split
  · exact congrArg some (Diagnostic.chars_arrow ..)
  · exact congrArg some (Diagnostic.chars_gutter ..)
  · refine congrArg some ?_
    simp [Row.chars]
  · obtain ⟨lead, tail, same, noLead, noTail, length⟩ :=
      exists_carets isPlace inside extent noCaret (toString source.line)
    exact ⟨lead, tail, congrArg some same, noLead, noTail, length⟩
  · obtain rfl | ⟨text, isHelp, rfl⟩ := help
    · exact .inl rfl
    · refine .inr ⟨text, isHelp, ?_⟩
      rw [← Diagnostic.chars_gutter, ← Diagnostic.chars_adviceRow]
      rfl

/-- A fault is displayed, unless there is too much to display. -/
theorem display_eq [Limits] (inside : 1 ≤ column) (extent : Diagnostic.extent place = count) :
    (UserError.pattern (fault.error source.pattern place)).display = (source.displayFault? column count).elim
      (.ok ((UserError.pattern (fault.error source.pattern place)).diagnostic.render
        (fault.error source.pattern place).sources false)) .error := by
  have shown := row?_sources fault isPlace oneLine first
  have indent : Diagnostic.indent place = (column : Int) - 1 := by
    simp only [isPlace, Diagnostic.indent]
    omega
  have line : (fault.error source.pattern place).lineFault? = source.lineFault? := by
    subst isPlace
    rfl
  have layout : (UserError.pattern (fault.error source.pattern place)).diagnostic.layoutFault?
      (fault.error source.pattern place).sources = caretFault? column count := by
    have located : (UserError.pattern (fault.error source.pattern place)).diagnostic.location = some place := rfl
    rw [Diagnostic.layoutFault?, located, Option.bind_some, shown, indent, extent]
    rfl
  rw [UserError.display, line, Diagnostic.print, layout, Source.displayFault?]
  cases source.lineFault? with
  | some fault => rfl
  | none =>
    cases caretFault? column count with
    | some fault => rfl
    | none => rfl

end Display

/-! ## What is blamed -/

/-- The error blames `count` characters of the source from a column on. -/
inductive Source.Blames [Limits] (source : Source) (error : PatternError) : (column count : Nat) → Prop where
  /-- the text stops being a pattern there -/
  | form {column : Nat} (invalid : ¬IsSyntactic source.pattern.toList) (locates : source.Locates error column) :
      Blames source error column 1
  /-- an empty literal, or the first number of a range that ends below its start, stands there -/
  | token {before after : List Token} {head : List Char} {token : Token}
      (stands : Stands source.pattern.toList before head token after)
      (offence : Offence source before (head.length + 1) token after (.rejected error)) :
      Blames source error (head.length + 1) token.spelling.length

theorem range_ne_endMessage (rest : String) : "invalid pattern syntax: repeat range \x7b" ++ rest ≠ endMessage := by
  intro same
  have start : "invalid pattern syntax: repeat range \x7b".toList[24]? = some 'r' := by decide +kernel
  have other : endMessage.toList[24]? = some 'u' := by decide +kernel
  have inside : 24 < "invalid pattern syntax: repeat range \x7b".toList.length := by decide +kernel
  have lists := congrArg String.toList same
  rw [String.toList_append] at lists
  rw [← lists, List.getElem?_append_left inside, start] at other
  cases other

section Blames

variable {source : Source} {error : PatternError} {column count : Nat}

theorem Offence.message_ne_endMessage [Limits] {before after : List Token} {token : Token}
    (offence : Offence source before column token after (.rejected error)) : error.message ≠ endMessage := by
  cases offence with
  | emptyLiteral empty =>
    have other : "invalid pattern syntax: empty string literal" ≠ endMessage := by decide +kernel
    exact other
  | @emptyRange low high after least most isLeast isMost short shortToo inverted =>
    have other := range_ne_endMessage (toString least ++ ("," ++ (toString most ++ "\x7d is empty")))
    rwa [← String.append_assoc, ← String.append_assoc, ← String.append_assoc] at other

theorem Offence.location_eq [Limits] {before after : List Token} {token : Token}
    (offence : Offence source before column token after (.rejected error)) :
    error.location = some (source.span column token.spelling.length) := by
  cases offence with
  | emptyLiteral empty => rfl
  | emptyRange isLeast isMost short shortToo inverted => rfl

theorem Stands.length_add_le {text head : List Char} {before after : List Token} {token : Token}
    (stands : Stands text before head token after) :
    0 < token.spelling.length ∧ head.length + token.spelling.length ≤ text.length := by
  obtain ⟨more, rfl, _⟩ := stands.trailing
  obtain ⟨c, others, spelling, _⟩ := stands.isSpelled.exists_spelling
  rw [List.length_append, List.length_append, spelling, List.length_cons]
  omega

/-- A refused source is blamed somewhere. -/
theorem exists_blames [Limits] (oneLine : '\n' ∉ source.pattern.toList) (failed : parse source = .error (.rejected error)) :
    ∃ column count, source.Blames error column count := by
  cases read : marks source.pattern.toList with
  | error refusal =>
    obtain ⟨column, locates⟩ := Source.exists_locates oneLine read
    have invalid : ¬IsSyntactic source.pattern.toList := by
      intro valid
      obtain ⟨found, accepted⟩ := isSyntactic_iff.1 valid
      cases accepted.symm.trans read
    rw [parse, read] at failed
    cases failed
    exact ⟨column, 1, .form invalid locates⟩
  | ok found =>
    have valid := isSyntactic_iff.2 ⟨found, read⟩
    obtain ⟨before, head, token, after, stands, offence, _⟩ :=
      isLeftmost_of_firstOffence? valid ((parse_eq_error_iff_first read).1 failed)
    rw [columnPast_of_oneLine (stands.linefeed_notMem_head oneLine), Nat.add_comm] at offence
    exact ⟨_, _, .token stands offence⟩

namespace Source.Blames

/-- The blamed column is in the text, or right after it where the text ends too early. -/
theorem column_le [Limits] (blames : source.Blames error column count) : 1 ≤ column ∧ column ≤ source.pattern.length + 1 ∧
    (column = source.pattern.length + 1 ↔ error.message = endMessage) := by
  cases blames with
  | form invalid locates =>
    by_cases ends : error.message = endMessage
    · have column := locates.atEnd ends
      exact ⟨by omega, by omega, by simp [ends, column]⟩
    · have inside := locates.inside ends
      exact ⟨by omega, by omega, by simp only [ends, iff_false]; omega⟩
  | token stands offence =>
    obtain ⟨positive, inside⟩ := stands.length_add_le
    rw [String.length_toList] at inside
    have goesOn := offence.message_ne_endMessage
    exact ⟨by omega, by omega, by simp only [goesOn, iff_false]; omega⟩

theorem exists_location [Limits] (blames : source.Blames error column count) : ∃ endColumn : Int,
    error.location = some ⟨source.file, source.line, column, endColumn⟩ ∧
      Diagnostic.extent ⟨source.file, source.line, column, endColumn⟩ = count := by
  cases blames with
  | form invalid locates =>
    have none : ¬(column : Int) < 0 := by omega
    exact ⟨0, locates.place, if_neg none⟩
  | @token before after head token stands offence =>
    refine ⟨_, offence.location_eq, ?_⟩
    have positive := stands.length_add_le.1
    simp only [Diagnostic.extent]
    split
    · omega
    · omega

theorem count_le [Limits] (blames : source.Blames error column count) : count ≤ source.pattern.length + 1 := by
  cases blames with
  | form invalid locates => omega
  | token stands offence =>
    have inside := stands.length_add_le.2
    rw [String.length_toList] at inside
    omega

end Source.Blames

theorem capacityFault?_eq_none {room : Nat} {number : Int} (natural : 0 ≤ number) (sized : number < indexBound)
    (fits : number ≤ room) : capacityFault? room number = none := by
  have above : -indexBound ≤ number := Int.le_trans (by decide) natural
  rw [capacityFault?, if_pos (by simp [isIndexSized, sized, above]), roomFault?, if_neg (Int.not_lt.2 fits)]

/-- So many lines, and so many columns, are few enough to be counted and to fit into memory. -/
def displayRoom [Limits] : Int := min (min Limits.cells Limits.characters) (indexBound - 1)

theorem Source.displayFault?_eq_none [Limits] (positive : 1 ≤ column) (first : 1 ≤ source.line)
    (lines : source.line ≤ displayRoom) (row : column ≤ displayRoom) (extent : count ≤ displayRoom) :
    source.displayFault? column count = none := by
  unfold displayRoom at lines row extent
  have noLine : capacityFault? Limits.characters (source.line - 1) = none :=
    capacityFault?_eq_none (by omega) (by omega) (by omega)
  have noList : roomFault? Limits.cells source.line = none := if_neg (by omega)
  have noIndent : capacityFault? Limits.characters ((column : Int) - 1) = none :=
    capacityFault?_eq_none (by omega) (by omega) (by omega)
  have noExtent : capacityFault? Limits.characters (count : Int) = none :=
    capacityFault?_eq_none (by omega) (by omega) (by omega)
  rw [displayFault?, lineFault?, caretFault?, noLine, noList, noIndent, noExtent]
  rfl

/-- A refused pattern of one line is displayed with carets under what is blamed, if the lines before it, and a line of
its length, can be counted and fit into memory. -/
theorem display_parse [Limits] (oneLine : '\n' ∉ source.pattern.toList) (plainFile : '\n' ∉ source.file.toList)
    (first : 1 ≤ source.line) (failed : parse source = .error (.rejected error)) :
    ∃ column count text, source.Blames error column count ∧ column ≤ source.pattern.length + 1 ∧
      (column = source.pattern.length + 1 ↔ error.message = endMessage) ∧
      source.Displays error column count (Text.rows text.toList) ∧
      (UserError.pattern error).display = (source.displayFault? column count).elim (.ok text) .error ∧
      (source.line ≤ displayRoom → source.pattern.length < displayRoom →
        source.displayFault? column count = none) := by
  obtain ⟨column, count, blames⟩ := exists_blames oneLine failed
  obtain ⟨positive, inside, ending⟩ := blames.column_le
  obtain ⟨endColumn, located, extent⟩ := blames.exists_location
  cases refuses_of_parse failed with
  | @fault fault place holds =>
    have isPlace : place = ⟨source.file, source.line, column, endColumn⟩ := Option.some.inj located
    rw [← isPlace] at extent
    refine ⟨column, count, _, blames, inside, ending, displays_render fault isPlace oneLine first positive extent plainFile,
      display_eq fault isPlace oneLine first positive extent, ?_⟩
    intro lines row
    have few := blames.count_le
    exact source.displayFault?_eq_none positive first lines (by omega) (by omega)

/-- A range that ends below its start, in a line whose number has three digits. -/
def invertedSource : Source := ⟨"'a' <b>\x7b10,2\x7d", "rules.txt", 100⟩

def invertedRange : PatternError := (Fault.emptyRange 10 2).error invertedSource.pattern (invertedSource.span 9 2)

section
open scoped Workstation

theorem display_parse_inverted : parse invertedSource = .error (.rejected invertedRange) ∧
    ∃ column count text, invertedSource.Blames invertedRange column count ∧
      invertedSource.Displays invertedRange column count (Text.rows text.toList) ∧
      (UserError.pattern invertedRange).display = .ok text ∧
      text = "error[E0002]: invalid pattern syntax: repeat range \x7b10,2\x7d is empty\n" ++
        "   --> rules.txt:100:9\n" ++
        "    |\n" ++
        "100 | 'a' <b>\x7b10,2\x7d\n" ++
        "    |         ^^\n" ++
        "    |\n" ++
        "    = help: write the smaller count first" := by
  have failed : parse invertedSource = .error (.rejected invertedRange) := by decide +kernel
  obtain ⟨column, count, text, blames, _, _, displays, shown, fits⟩ :=
    display_parse (by decide +kernel) (by decide +kernel) (by decide) failed
  rw [fits (by decide) (by decide +kernel)] at shown
  refine ⟨failed, column, count, text, blames, displays, shown, Except.ok.inj (shown.symm.trans ?_)⟩
  decide +kernel

/-- In a line with a number that no list can have as its length, nothing is displayed. -/
theorem display_farLine :
    let source : Source := ⟨")", "<pattern>", 100000000000000000000⟩
    let error := (Fault.unexpectedToken [')']).error source.pattern (source.point 1)
    parse source = .error (.rejected error) ∧ (UserError.pattern error).display = .error .notIndexSized := by
  decide +kernel

end

end Blames

end Pattern

end Utterance
