import Utterance.Path
import Utterance.Proofs.Basic

/-!
# Paths as texts

A path that was read from a text is normal: its names are the pieces between slashes that count. Writing a normal path
and reading it again gives the same path (`ofText_text`). So the path with an extension after its last name is what the
text of the path with the extension after it means (`ofText_append`), and there is one exactly if the path has a last
name (`withExtension_eq_ok_iff`).
-/

namespace Utterance.Path
set_option autoImplicit false

/-- A text that can be one of the names of a path. -/
def IsName (name : List Char) : Prop :=
  '/' ∉ name ∧ name ≠ [] ∧ name ≠ ['.']

/-- A path as it is read from a text. -/
structure IsNormal (path : Path) : Prop where
  root : path.root = "" ∨ path.root = "/" ∨ path.root = "//"
  names : ∀ name ∈ path.names, IsName name.toList

theorem IsName.exists_cons {name : List Char} (proper : IsName name) : ∃ c rest, name = c :: rest ∧ c ≠ '/' := by
  obtain ⟨noSlash, nonempty, _⟩ := proper
  obtain ⟨c, rest, rfl⟩ := List.exists_cons_of_ne_nil nonempty
  refine ⟨c, rest, rfl, ?_⟩
  rintro rfl
  exact noSlash List.mem_cons_self

/-! ## Reading -/

theorem pieces_eq_splitOn (text : List Char) : pieces text = text.splitOn '/' := by
  fun_induction pieces text with
  | case1 => rfl
  | case2 rest ih => rw [List.splitOn_cons_eq_if_modifyHead, if_pos (beq_self_eq_true '/'), ih]
  | case3 c rest other nothing ih =>
    have nonempty := List.splitOn_ne_nil '/' rest
    rw [nothing] at ih
    exact absurd ih.symm nonempty
  | case4 c rest other piece more split ih =>
    have different : (c == '/') = false := beq_eq_false_iff_ne.2 other
    rw [List.splitOn_cons_eq_if_modifyHead, different, ← ih, split]
    rfl

theorem slash_notMem_of_mem_pieces {text piece : List Char} (listed : piece ∈ pieces text) : '/' ∉ piece := by
  fun_induction pieces text generalizing piece with
  | case1 =>
    rw [List.mem_singleton.1 listed]
    exact List.not_mem_nil
  | case2 rest ih =>
    obtain rfl | later := List.mem_cons.1 listed
    · exact List.not_mem_nil
    · exact ih later
  | case3 c rest other nothing ih =>
    rw [List.mem_singleton.1 listed, List.mem_singleton]
    exact fun same => other same.symm
  | case4 c rest other first more split ih =>
    rw [split] at ih
    obtain rfl | later := List.mem_cons.1 listed
    · exact List.not_mem_cons_of_ne_of_not_mem (Ne.symm other) (ih List.mem_cons_self)
    · exact ih (List.mem_cons_of_mem first later)

theorem isName_of_mem_namesOf {text : List Char} {name : String} (listed : name ∈ namesOf text) : IsName name.toList := by
  obtain ⟨piece, kept, rfl⟩ := List.mem_map.1 listed
  obtain ⟨inside, counts⟩ := List.mem_filter.1 kept
  have noSlash := slash_notMem_of_mem_pieces inside
  rw [String.toList_ofList]
  simpa [IsName, noSlash] using counts

theorem rootOf_eq (text : List Char) : rootOf text = "" ∨ rootOf text = "/" ∨ rootOf text = "//" := by
  unfold rootOf
  split <;> simp

theorem isNormal_ofText (text : String) : (ofText text).IsNormal :=
  ⟨rootOf_eq text.toList, fun _ listed => isName_of_mem_namesOf listed⟩

theorem namesOf_slash (text : List Char) : namesOf ('/' :: text) = namesOf text := rfl

/-- Names with slashes between them are read as these names. -/
theorem namesOf_intercalate {names : List String} (proper : ∀ name ∈ names, IsName name.toList) (nonempty : names ≠ []) :
    namesOf (['/'].intercalate (names.map String.toList)) = names := by
  have noSlash : ∀ piece ∈ names.map String.toList, '/' ∉ piece := by
    rw [List.forall_mem_map]
    exact fun name listed => (proper name listed).1
  have counts : ∀ piece ∈ names.map String.toList, (!piece.isEmpty && piece != ['.']) = true := by
    rw [List.forall_mem_map]
    intro name listed
    obtain ⟨_, nonempty, other⟩ := proper name listed
    simp [nonempty, other]
  rw [namesOf, pieces_eq_splitOn, List.splitOn_intercalate '/' noSlash (by simpa using nonempty),
    List.filter_eq_self.2 counts, List.map_map]
  simp [Function.comp_def]

theorem namesOf_of_isName {name : String} (proper : IsName name.toList) : namesOf name.toList = [name] := by
  have each : ∀ part ∈ [name], IsName part.toList := List.forall_mem_singleton.2 proper
  simpa using namesOf_intercalate each (List.cons_ne_nil _ _)

theorem rootOf_cons {c : Char} (other : c ≠ '/') (text : List Char) : rootOf (c :: text) = "" := by
  simp [rootOf, other]

/-- A root before names is read as this root. -/
theorem rootOf_append {root : String} (known : root = "" ∨ root = "/" ∨ root = "//") {c : Char} (other : c ≠ '/')
    (text : List Char) : rootOf (root.toList ++ c :: text) = root := by
  obtain rfl | rfl | rfl := known
  · exact rootOf_cons other text
  · simp [rootOf, other]
  · simp [rootOf, other]

theorem namesOf_append {root : String} (known : root = "" ∨ root = "/" ∨ root = "//") (text : List Char) :
    namesOf (root.toList ++ text) = namesOf text := by
  obtain rfl | rfl | rfl := known
  · rfl
  · exact namesOf_slash text
  · exact (namesOf_slash ('/' :: text)).trans (namesOf_slash text)

/-! ## Writing -/

variable {path longer : Path} {extension : String}

theorem exists_intercalate_eq_cons {names : List String} (proper : ∀ name ∈ names, IsName name.toList)
    (nonempty : names ≠ []) :
    ∃ c text, ['/'].intercalate (names.map String.toList) = c :: text ∧ c ≠ '/' := by
  cases names with
  | nil => exact absurd rfl nonempty
  | cons name rest =>
    obtain ⟨c, others, spelled, different⟩ := (proper name List.mem_cons_self).exists_cons
    cases rest with
    | nil => exact ⟨c, others, by simp [spelled], different⟩
    | cons next more =>
      refine ⟨c, others ++ (['/'] ++ ['/'].intercalate ((next :: more).map String.toList)), ?_, different⟩
      rw [List.map_cons, List.map_cons, List.intercalate_cons_cons, spelled]
      simp

theorem toList_text (nonempty : path.names ≠ []) :
    path.text.toList = path.root.toList ++ ['/'].intercalate (path.names.map String.toList) := by
  have written : (path.root.isEmpty && path.names.isEmpty) = false := by simp [nonempty]
  rw [text, written]
  simp [String.toList_append, String.toList_intercalate]

/-- A normal path with a name is read again from its text. -/
theorem ofText_text (normal : path.IsNormal) (nonempty : path.names ≠ []) : ofText path.text = path := by
  obtain ⟨c, rest, joined, different⟩ := exists_intercalate_eq_cons normal.names nonempty
  have root : rootOf path.text.toList = path.root := by
    rw [toList_text nonempty, joined, rootOf_append normal.root different]
  have names : namesOf path.text.toList = path.names := by
    rw [toList_text nonempty, namesOf_append normal.root, namesOf_intercalate normal.names nonempty]
  rw [ofText, root, names]

theorem names_ne_nil_of_name (named : path.name ≠ "") : path.names ≠ [] := by
  intro empty
  rw [name, empty] at named
  exact named rfl

theorem name_mem_names (named : path.name ≠ "") : path.name ∈ path.names := by
  have nonempty := names_ne_nil_of_name named
  rw [name, List.getLastD_eq_getLast?, List.getLast?_eq_some_getLast nonempty, Option.getD_some]
  exact List.getLast_mem nonempty

theorem withExtension_eq_ok (found : path.withExtension extension = .ok longer) :
    path.name ≠ "" ∧ longer = { path with names := path.names.dropLast ++ [path.name ++ extension] } := by
  unfold withExtension withName at found
  split at found
  · cases found
  · rename_i named
    split at found
    · cases found
      exact ⟨by simpa using named, rfl⟩
    · cases found

theorem intercalate_concat_append {α : Type} (separator : List α) (pieces : List (List α)) (last more : List α) :
    separator.intercalate (pieces ++ [last ++ more]) = separator.intercalate (pieces ++ [last]) ++ more := by
  induction pieces with
  | nil => simp
  | cons piece rest ih =>
    cases rest with
    | nil => simp
    | cons next others =>
      simp only [List.cons_append, List.intercalate_cons_cons, List.append_assoc] at ih ⊢
      rw [ih]

/-- The path with an extension is written with the extension at the end. -/
theorem text_withExtension (found : path.withExtension extension = .ok longer) :
    longer.text = path.text ++ extension := by
  obtain ⟨named, rfl⟩ := withExtension_eq_ok found
  have nonempty := names_ne_nil_of_name named
  have split : path.names = path.names.dropLast ++ [path.name] := by
    rw [name, List.getLastD_eq_getLast?, List.getLast?_eq_some_getLast nonempty, Option.getD_some,
      List.dropLast_concat_getLast nonempty]
  have joined : "/".intercalate (path.names.dropLast ++ [path.name ++ extension]) =
      "/".intercalate path.names ++ extension := by
    rw [← String.toList_inj, String.toList_append, String.toList_intercalate, String.toList_intercalate, split,
      List.map_append, List.map_append, List.map_singleton, List.map_singleton, String.toList_append,
      intercalate_concat_append, ← split]
  have named : (path.root.isEmpty && path.names.isEmpty) = false := by simp [nonempty]
  have longerNamed : (path.root.isEmpty && (path.names.dropLast ++ [path.name ++ extension]).isEmpty) = false := by simp
  rw [text, text, named, longerNamed, joined]
  simp only [Bool.false_eq_true, if_false, String.append_assoc]

/-- An extension with something in it and no slash leaves a name a name. -/
theorem IsName.append {name : List Char} (proper : IsName name) {more : List Char} (longer : more ≠ [])
    (noSlash : '/' ∉ more) : IsName (name ++ more) := by
  obtain ⟨plain, nonempty, _⟩ := proper
  refine ⟨?_, by simp [nonempty], ?_⟩
  · rw [List.mem_append]
    rintro (inside | inside)
    · exact plain inside
    · exact noSlash inside
  · intro dot
    have two : 2 ≤ (name ++ more).length := by
      have first := List.length_pos_iff.2 nonempty
      have second := List.length_pos_iff.2 longer
      rw [List.length_append]
      omega
    rw [dot] at two
    exact absurd two (by decide)

theorem isSingleName_of_isName {name : String} (proper : IsName name.toList) : isSingleName name = true := by
  obtain ⟨c, rest, spelled, different⟩ := proper.exists_cons
  have last : name.toList.getLast? ≠ some '/' := by
    intro ends
    exact proper.1 (List.mem_of_getLast? ends)
  have noRoot : rootOf name.toList = "" := by rw [spelled, rootOf_cons different]
  simp [isSingleName, noRoot, last, namesOf_of_isName proper]

section Extension

variable (normal : path.IsNormal) (nonempty : extension.toList ≠ []) (noSlash : '/' ∉ extension.toList)

include normal nonempty noSlash

/-- A path has a neighbour with an extension exactly if it has a last name. -/
theorem withExtension_eq_ok_iff : (∃ longer, path.withExtension extension = .ok longer) ↔ path.name ≠ "" := by
  constructor
  · rintro ⟨longer, found⟩
    exact (withExtension_eq_ok found).1
  · intro named
    have proper : IsName (path.name ++ extension).toList := by
      rw [String.toList_append]
      exact (normal.names _ (name_mem_names named)).append nonempty noSlash
    have written : path.name.isEmpty = false := by simpa using named
    rw [withExtension, withName, written, isSingleName_of_isName proper]
    exact ⟨_, rfl⟩

/-- The path with an extension is what its text means, which is the text of the path and the extension. -/
theorem ofText_append (found : path.withExtension extension = .ok longer) :
    ofText (path.text ++ extension) = longer := by
  rw [← text_withExtension found]
  obtain ⟨named, rfl⟩ := withExtension_eq_ok found
  refine ofText_text ⟨normal.root, ?_⟩ (by simp)
  intro name listed
  obtain earlier | last := List.mem_append.1 listed
  · exact normal.names name (List.dropLast_subset _ earlier)
  · rw [List.mem_singleton.1 last, String.toList_append]
    exact (normal.names _ (name_mem_names named)).append nonempty noSlash

end Extension

end Utterance.Path
