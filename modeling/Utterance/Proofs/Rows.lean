import Utterance.Text.Lines

/-!
# Files of lines

A file is a text in which a line feed ends every line, and a line is read by cutting it at the first place where a
separator stands. What was written so can be read again, if no line contains a line feed and the separator does not
occur before its place (`ended?_flatMap`, `cut_append`).
-/

namespace Utterance.Text
set_option autoImplicit false

/-! ## Rows -/

theorem exists_rows_eq_cons (text : List Char) : ∃ row rest, rows text = row :: rest := by
  cases text with
  | nil => exact ⟨[], [], rfl⟩
  | cons c text =>
    rw [rows]
    split
    · exact ⟨_, _, rfl⟩
    · cases rows text <;> exact ⟨_, _, rfl⟩

theorem rows_of_linefeed (text : List Char) : rows ('\n' :: text) = [] :: rows text := rfl

theorem rows_of_ne {c : Char} (other : c ≠ '\n') (text : List Char) : rows (c :: text) = consFirst c (rows text) := by
  rw [rows, if_neg other]

theorem rows_append_linefeed {line : List Char} (plain : '\n' ∉ line) (rest : List Char) :
    rows (line ++ '\n' :: rest) = line :: rows rest := by
  induction line with
  | nil => exact rows_of_linefeed rest
  | cons c line ih =>
    rw [List.mem_cons, not_or] at plain
    rw [List.cons_append, rows_of_ne (Ne.symm plain.1), ih plain.2, consFirst]

theorem rows_of_notMem {line : List Char} (plain : '\n' ∉ line) : rows line = [line] := by
  induction line with
  | nil => rfl
  | cons c line ih =>
    rw [List.mem_cons, not_or] at plain
    rw [rows_of_ne (Ne.symm plain.1), ih plain.2, consFirst]

/-- A row consists of characters of the text. -/
theorem mem_of_mem_rows {text row : List Char} {c : Char} (listed : row ∈ rows text) (member : c ∈ row) : c ∈ text := by
  induction text generalizing row with
  | nil =>
    obtain rfl : row = [] := List.mem_singleton.1 listed
    exact member
  | cons d text ih =>
    rw [rows] at listed
    split at listed
    · obtain rfl | later := List.mem_cons.1 listed
      · cases member
      · exact List.mem_cons_of_mem d (ih later member)
    · obtain ⟨first, others, cut⟩ := exists_rows_eq_cons text
      rw [cut, consFirst] at listed
      rw [cut] at ih
      obtain rfl | later := List.mem_cons.1 listed
      · obtain rfl | inside := List.mem_cons.1 member
        · exact List.mem_cons_self
        · exact List.mem_cons_of_mem d (ih List.mem_cons_self inside)
      · exact List.mem_cons_of_mem d (ih (List.mem_cons_of_mem first later) member)

/-- Rows with line feeds between them can be told apart again. -/
theorem rows_intercalate {lines : List (List Char)} (nonempty : lines ≠ []) (plain : ∀ line ∈ lines, '\n' ∉ line) :
    rows (['\n'].intercalate lines) = lines := by
  induction lines with
  | nil => exact absurd rfl nonempty
  | cons line rest ih =>
    rw [List.forall_mem_cons] at plain
    cases rest with
    | nil => rw [List.intercalate_singleton, rows_of_notMem plain.1]
    | cons next others =>
      rw [List.intercalate_cons_cons, List.append_assoc, List.singleton_append, rows_append_linefeed plain.1,
        ih (List.cons_ne_nil _ _) plain.2]

/-- The lines of a file: what stands before each line feed. There is no file if something follows the last one. -/
def ended? (text : List Char) : Option (List (List Char)) :=
  if (rows text).getLast? = some [] then some (rows text).dropLast else none

theorem rows_flatMap {lines : List (List Char)} (plain : ∀ line ∈ lines, '\n' ∉ line) :
    rows (lines.flatMap (· ++ ['\n'])) = lines ++ [[]] := by
  induction lines with
  | nil => rfl
  | cons line rest ih =>
    rw [List.forall_mem_cons] at plain
    rw [List.flatMap_cons, List.append_assoc, List.singleton_append, rows_append_linefeed plain.1, ih plain.2,
      List.cons_append]

/-- The lines of a file can be read. -/
theorem ended?_flatMap {lines : List (List Char)} (plain : ∀ line ∈ lines, '\n' ∉ line) :
    ended? (lines.flatMap (· ++ ['\n'])) = some lines := by
  rw [ended?, rows_flatMap plain, List.getLast?_concat, if_pos rfl, List.dropLast_concat]

/-! ## Separators -/

/-- The text before the first place where the separator stands, and the text after it. -/
def cut (separator : List Char) : List Char → Option (List Char × List Char)
  | [] => none
  | c :: rest =>
    if separator.isPrefixOf (c :: rest) then some ([], (c :: rest).drop separator.length)
    else (cut separator rest).map fun pieces => (c :: pieces.1, pieces.2)

/-- A text is cut at a separator if the first character of this does not occur before. -/
theorem cut_append {first : Char} {others before : List Char} (plain : first ∉ before) (after : List Char) :
    cut (first :: others) (before ++ (first :: others ++ after)) = some (before, after) := by
  induction before with
  | nil =>
    have begins : (first :: others).isPrefixOf (first :: (others ++ after)) = true :=
      List.isPrefixOf_iff_prefix.2 ⟨after, rfl⟩
    rw [List.nil_append, List.cons_append, cut, if_pos begins, ← List.cons_append, List.drop_left]
  | cons c before ih =>
    rw [List.mem_cons, not_or] at plain
    have other : (first :: others).isPrefixOf (c :: (before ++ (first :: others ++ after))) = false := by
      rw [List.isPrefixOf, beq_eq_false_iff_ne.2 plain.1, Bool.false_and]
    rw [List.cons_append, cut, other, ih plain.2]
    rfl

/-- What stands before the first place of a character does not contain it. -/
theorem notMem_of_cut {separator : Char} {text before after : List Char}
    (done : cut [separator] text = some (before, after)) : separator ∉ before := by
  induction text generalizing before with
  | nil => cases done
  | cons c rest ih =>
    rw [cut] at done
    split at done
    · cases done
      exact List.not_mem_nil
    · rename_i other
      obtain ⟨⟨start, _⟩, found, same⟩ := Option.map_eq_some_iff.1 done
      cases same
      have different : separator ≠ c := by
        rintro rfl
        exact other (List.isPrefixOf_iff_prefix.2 ⟨rest, rfl⟩)
      exact List.not_mem_cons_of_ne_of_not_mem different (ih found)

end Utterance.Text
