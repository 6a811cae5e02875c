import Utterance.Diagnostic.Report
import Utterance.Proofs.Names

/-!
# The characters of a diagnostic

A diagnostic is laid out with fixed texts, numbers, spaces and carets, all of them graphic characters. So a character
that is not graphic, such as a line feed or an escape character, is in a row only if one of the texts that the
diagnostic was made from has it (`isFree_rows`).
-/

namespace Utterance
set_option autoImplicit false

/-- Whether a character is a space or has a sign of its own, and is no control character. -/
def isGraphic (c : Char) : Bool :=
  32 ≤ c.toNat

/-- The character does not occur in the row. -/
def Row.IsFree (c : Char) (row : Row) : Prop :=
  ∀ span ∈ row, c ∉ span.text.toList

/-- The character does not occur in what a diagnostic is made from, the row of its source apart. -/
structure Diagnostic.IsFree (c : Char) (diagnostic : Diagnostic) : Prop where
  message : c ∉ diagnostic.message.toList
  code : ∀ code ∈ diagnostic.code, c ∉ code.toList
  help : ∀ help ∈ diagnostic.help, c ∉ help.toList
  note : ∀ note ∈ diagnostic.note, c ∉ note.toList
  label : ∀ label ∈ diagnostic.label, c ∉ label.toList
  file : ∀ place ∈ diagnostic.location, c ∉ place.file.toList

section Texts

variable {c : Char}

theorem notMem_append {first second : String} (free : c ∉ first.toList) (freeToo : c ∉ second.toList) :
    c ∉ (first ++ second).toList := by
  rw [String.toList_append, List.mem_append]
  exact not_or.2 ⟨free, freeToo⟩

variable (control : isGraphic c = false)

include control

theorem notMem_of_isGraphic {text : List Char} (graphic : text.all isGraphic = true) : c ∉ text := by
  intro member
  have isOne := List.all_eq_true.1 graphic c member
  rw [control] at isOne
  cases isOne

theorem notMem_fill (count : Nat) {d : Char} (graphic : isGraphic d = true) : c ∉ (fill count d).toList := by
  refine notMem_of_isGraphic control ?_
  rw [fill, String.toList_ofList, List.all_eq_true]
  intro e member
  rw [List.eq_of_mem_replicate member, graphic]

theorem notMem_number (number : Int) : c ∉ (toString number).toList := by
  intro member
  obtain rfl | digit := Name.isDigit_of_mem_number member
  · cases control
  · have large : '0'.toNat ≤ c.toNat := by
      simp only [Char.isDigit, Bool.and_eq_true, decide_eq_true_eq] at digit
      exact digit.1
    have small : ¬32 ≤ c.toNat := by simpa [isGraphic] using control
    exact small (Nat.le_trans (by decide) large)

theorem Location.notMem_text {place : Location} (free : c ∉ place.file.toList) : c ∉ place.text.toList := by
  have colon : c ∉ ":".toList := notMem_of_isGraphic control (by decide)
  have line := notMem_append (notMem_append free colon) (notMem_number control place.line)
  exact notMem_append (notMem_append line colon) (notMem_number control place.column)

theorem notMem_margin (count : Nat) {sign : String} (graphic : sign.toList.all isGraphic = true) :
    c ∉ (fill count ' ' ++ sign).toList :=
  notMem_append (notMem_fill control count (by decide)) (notMem_of_isGraphic control graphic)

end Texts

/-! ## Rows -/

theorem eq_some_of_present {text : Option String} {shown : String} (found : present text = some shown) :
    text = some shown := by
  cases text with
  | none => cases found
  | some text =>
    rw [present] at found
    split at found
    · cases found
    · exact found

namespace Diagnostic

variable {c : Char} {diagnostic : Diagnostic}

theorem notMem_present {text : Option String} (free : ∀ shown ∈ text, c ∉ shown.toList) (frame : String → String)
    (framed : ∀ shown, c ∉ shown.toList → c ∉ (frame shown).toList) : c ∉ ((present text).elim "" frame).toList := by
  cases found : present text with
  | none => exact List.not_mem_nil
  | some shown => exact framed shown (free shown (eq_some_of_present found))

variable (control : isGraphic c = false)

include control

theorem isFree_arrow (width : Nat) {place : String} (plain : c ∉ place.toList) : Row.IsFree c (arrow width place) :=
  List.forall_mem_cons.2 ⟨notMem_margin control width (by decide), List.forall_mem_singleton.2 plain⟩

theorem isFree_gutter (width : Nat) : Row.IsFree c (gutter width) :=
  List.forall_mem_singleton.2 (notMem_margin control (width + 1) (by decide))

theorem isFree_adviceRow (width : Nat) {kind advice : String} (graphic : kind.toList.all isGraphic = true)
    (plain : c ∉ advice.toList) : Row.IsFree c (adviceRow width kind advice) := by
  have heading : c ∉ (kind ++ ": ").toList :=
    notMem_append (notMem_of_isGraphic control graphic) (notMem_of_isGraphic control (by decide))
  exact List.forall_mem_cons.2 ⟨notMem_margin control (width + 1) (by decide),
    List.forall_mem_cons.2 ⟨heading, List.forall_mem_singleton.2 plain⟩⟩

theorem notMem_carets (place : Location) : c ∉ (carets place).toList :=
  notMem_append (notMem_fill control _ (by decide)) (notMem_fill control _ (by decide))

variable (free : diagnostic.IsFree c)

include free

theorem isFree_header : Row.IsFree c diagnostic.header := by
  have code := notMem_present free.code (fun code => "[" ++ code ++ "]") fun code plain =>
    notMem_append (notMem_append (notMem_of_isGraphic control (by decide)) plain)
      (notMem_of_isGraphic control (by decide))
  have message := notMem_append (notMem_of_isGraphic control (by decide : ": ".toList.all isGraphic = true)) free.message
  have word : c ∉ "error".toList := notMem_of_isGraphic control (by decide)
  exact List.forall_mem_cons.2 ⟨notMem_append word code, List.forall_mem_singleton.2 message⟩

theorem isFree_adviceRows (width : Nat) : ∀ row ∈ diagnostic.adviceRows width, Row.IsFree c row := by
  have kind : ∀ {text : Option String} {kind : String}, (∀ shown ∈ text, c ∉ shown.toList) →
      kind.toList.all isGraphic = true →
      ∀ row ∈ (present text).elim [] fun shown => [adviceRow width kind shown], Row.IsFree c row := by
    intro text kind plain graphic
    cases found : present text with
    | none => exact fun _ impossible => absurd impossible List.not_mem_nil
    | some shown =>
      exact List.forall_mem_singleton.2
        (isFree_adviceRow control width graphic (plain shown (eq_some_of_present found)))
  have help := kind free.help (by decide : "help".toList.all isGraphic = true)
  have note := kind free.note (by decide : "note".toList.all isGraphic = true)
  rw [adviceRows]
  split
  · exact fun _ impossible => absurd impossible List.not_mem_nil
  · exact List.forall_mem_append.2 ⟨List.forall_mem_cons.2 ⟨isFree_gutter control width, help⟩, note⟩

theorem isFree_excerpt (width : Nat) (place : Location) {source : String} (plain : c ∉ source.toList) :
    ∀ row ∈ diagnostic.excerpt width place source, Row.IsFree c row := by
  have label := notMem_present free.label (fun label => " " ++ label) fun label plain =>
    notMem_append (notMem_of_isGraphic control (by decide)) plain
  have number : c ∉ (toString place.line ++ " | ").toList :=
    notMem_append (notMem_number control place.line) (notMem_of_isGraphic control (by decide))
  have margin : c ∉ (fill (width + 1) ' ' ++ "| ").toList := notMem_margin control (width + 1) (by decide)
  have carets := notMem_append (notMem_carets control place) label
  refine List.forall_mem_cons.2 ⟨isFree_gutter control width, List.forall_mem_cons.2 ⟨?_, List.forall_mem_singleton.2 ?_⟩⟩
  · exact List.forall_mem_cons.2 ⟨number, List.forall_mem_singleton.2 plain⟩
  · exact List.forall_mem_cons.2 ⟨margin, List.forall_mem_singleton.2 carets⟩

/-- A control character is in no row, if neither a text of the diagnostic nor the row of the source has it. -/
theorem isFree_rows {sources : List SourceText}
    (shown : ∀ place ∈ diagnostic.location, ∀ source ∈ place.row? sources, c ∉ source.toList) :
    ∀ row ∈ diagnostic.rows sources, Row.IsFree c row := by
  have advice := fun width => isFree_adviceRows control free width
  rw [rows]
  refine List.forall_mem_cons.2 ⟨isFree_header control free, ?_⟩
  cases located : diagnostic.location with
  | none =>
    have unknown : c ∉ "<unknown location>".toList := notMem_of_isGraphic control (by decide)
    exact List.forall_mem_cons.2 ⟨isFree_arrow control 1 unknown, advice 1⟩
  | some place =>
    have text := Location.notMem_text control (free.file place located)
    cases found : place.row? sources with
    | none =>
      simp only [found]
      exact List.forall_mem_cons.2 ⟨isFree_arrow control 1 text, advice 1⟩
    | some source =>
      simp only [found]
      have excerpt := isFree_excerpt control free (toString place.line).length place (shown place located source found)
      exact List.forall_mem_append.2 ⟨List.forall_mem_cons.2 ⟨isFree_arrow control _ text, excerpt⟩, advice _⟩

end Diagnostic

end Utterance
