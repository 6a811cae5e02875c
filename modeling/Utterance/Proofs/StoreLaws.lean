import Utterance.FileStore
import Utterance.Proofs.Storing

/-!
# The laws of file stores

A path that can be written to leads to a place for a file, in a directory. Putting a file there leaves every other as it
was, and since no directory is covered by it, all paths lead where they led before (`find_put`). So a file store keeps
what is written to it.
-/

namespace Utterance
set_option autoImplicit false

/-! ## Places for files -/

/-- The names of the file that the target is, or that can be put there. -/
def Target.slot? : Target → Option (List String)
  | .file names _ => some names
  | .free names => some names
  | _ => none

/-- The target when a file is put at some names. -/
def Target.filled (names : List String) (bytes : Text.Bytes) (target : Target) : Target :=
  if target.slot? = some names then .file names bytes else target

namespace FileStore

/-- No directory stands at the names. -/
def IsOpen (store : FileStore) (names : List String) : Prop :=
  store.files.lookup names = none → names ∉ store.directories

variable {store : FileStore} {names slot place : List String} {bytes : Text.Bytes} {path : Path}

theorem lookup_map_replace (files : List (List String × Text.Bytes)) (names other : List String) (bytes : Text.Bytes) :
    (files.map fun file => if file.1 == names then (names, bytes) else file).lookup other =
      if other = names then (files.lookup names).map fun _ => bytes else files.lookup other := by
  induction files with
  | nil => simp
  | cons file rest ih =>
    obtain ⟨known, old⟩ := file
    simp only [beq_iff_eq] at ih ⊢
    rw [List.map_cons]
    by_cases replaced : known = names
    · subst replaced
      by_cases same : other = known
      · simp [same]
      · simp [List.lookup_cons, beq_eq_false_iff_ne.2 same, ih, same]
    · by_cases same : other = names
      · subst same
        simp [List.lookup_cons, replaced, beq_eq_false_iff_ne.2 (Ne.symm replaced), ih]
      · simp [List.lookup_cons, replaced, ih, same]

theorem lookup_put (store : FileStore) (names other : List String) (bytes : Text.Bytes) :
    (store.put names bytes).files.lookup other = if other = names then some bytes else store.files.lookup other := by
  unfold put
  split
  · rename_i known
    rw [lookup_map_replace]
    obtain ⟨file, listed, same⟩ := List.any_eq_true.1 known
    cases found : store.files.lookup names with
    | some old => rfl
    | none =>
      have unlisted := List.lookup_eq_none_iff.1 found file listed
      rw [beq_iff_eq.1 same] at unlisted
      exact absurd unlisted (by simp)
  · rename_i unknown
    have unlisted : store.files.lookup names = none := by
      rw [List.lookup_eq_none_iff]
      intro file listed
      rw [bne_iff_ne]
      rintro rfl
      exact unknown (List.any_eq_true.2 ⟨file, listed, by simp⟩)
    rw [List.lookup_append]
    by_cases same : other = names
    · simp [same, unlisted]
    · simp [same, List.lookup_cons, beq_eq_false_iff_ne.2 same]

@[simp] theorem directories_put : (store.put names bytes).directories = store.directories := by
  unfold put
  split <;> rfl

@[simp] theorem workingDirectory_put : (store.put names bytes).workingDirectory = store.workingDirectory := by
  unfold put
  split <;> rfl

theorem lookUp_put (isOpen : store.IsOpen names) (place : List String) (name : String) :
    (store.put names bytes).lookUp place name = (store.lookUp place name).filled names bytes := by
  unfold lookUp
  split
  · rfl
  · split
    · rfl
    · by_cases same : place ++ [name] = names
      · subst same
        have here : (store.put (place ++ [name]) bytes).files.lookup (place ++ [name]) = some bytes := by
          rw [lookup_put, if_pos rfl]
        simp only [here]
        cases known : store.files.lookup (place ++ [name]) with
        | some old => simp [Target.filled, Target.slot?]
        | none => simp [isOpen known, Target.filled, Target.slot?]
      · have there : (store.put names bytes).files.lookup (place ++ [name]) = store.files.lookup (place ++ [name]) := by
          rw [lookup_put, if_neg same]
        simp only [there, directories_put]
        split
        · simp [Target.filled, Target.slot?, same]
        · split <;> simp [Target.filled, Target.slot?, same]

theorem isOpen_of_lookUp {name : String} (found : (store.lookUp place name).slot? = some slot) : store.IsOpen slot := by
  unfold lookUp at found
  split at found
  · cases found
  · split at found
    · cases found
    · simp only at found
      split at found
      · rename_i old known
        cases found
        exact fun unknown => absurd (known.symm.trans unknown) (by simp)
      · split at found
        · cases found
        · rename_i free
          cases found
          exact fun _ listed => free (List.contains_iff_mem.2 listed)

/-- Names lead to a place for a file only through directories. -/
theorem directory_or_nil {target : Target} (found : (store.follow target names).slot? = some slot) :
    (∃ place, target = .directory place) ∨ names = [] := by
  cases names with
  | nil => exact .inr rfl
  | cons name rest =>
    cases target with
    | directory place => exact .inl ⟨place, rfl⟩
    | _ => cases found

/-- No directory is at a place for a file. -/
theorem isOpen_of_follow (found : (store.follow (.directory place) names).slot? = some slot) : store.IsOpen slot := by
  induction names generalizing place with
  | nil => cases found
  | cons name rest ih =>
    rw [follow] at found
    obtain ⟨next, directory⟩ | rfl := directory_or_nil found
    · rw [directory] at found
      exact ih found
    · exact isOpen_of_lookUp found

theorem follow_put (isOpen : store.IsOpen names) {others : List String}
    (found : (store.follow (.directory place) others).slot? = some slot) :
    (store.put names bytes).follow (.directory place) others =
      (store.follow (.directory place) others).filled names bytes := by
  induction others generalizing place with
  | nil => cases found
  | cons name rest ih =>
    rw [follow] at found ⊢
    rw [follow, lookUp_put isOpen]
    obtain ⟨next, directory⟩ | rfl := directory_or_nil found
    · rw [directory] at found ⊢
      exact ih found
    · rfl

/-! ## Paths -/

theorem writable_eq_ok_iff : store.writable path = .ok slot ↔ (store.find path).slot? = some slot := by
  unfold writable
  split <;> simp_all [Target.slot?]

/-- A path that can be written to is followed from a directory. -/
theorem find_eq_of_slot? (found : (store.find path).slot? = some slot) :
    store.find path = store.follow (.directory (if path.root.isEmpty then store.workingDirectory else [])) path.names := by
  unfold find findFrom at found ⊢
  split at found
  · cases found
  · split at found
    · cases found
    · rename_i nameable short
      rw [if_neg nameable, if_neg short]

theorem find_put (isOpen : store.IsOpen names) (found : store.writable path = .ok slot) :
    (store.put names bytes).find path = (store.find path).filled names bytes := by
  rw [writable_eq_ok_iff] at found
  have followed := find_eq_of_slot? found
  rw [followed] at found ⊢
  rw [← follow_put isOpen found]
  unfold find findFrom at followed ⊢
  rw [workingDirectory_put]
  split at followed
  · rw [← followed] at found
    cases found
  · split at followed
    · rw [← followed] at found
      cases found
    · rename_i nameable short
      rw [if_neg nameable, if_neg short]

theorem isOpen_of_writable (found : store.writable path = .ok slot) : store.IsOpen slot := by
  rw [writable_eq_ok_iff] at found
  rw [find_eq_of_slot? found] at found
  exact isOpen_of_follow found

/-! ## Laws -/

/-- The names of a target that is a file. -/
def fileNames? : Target → Option (List String)
  | .file names _ => some names
  | _ => none

instance : FileView FileStore where
  contents store (names : List String) := store.files.lookup names
  leads store path := fileNames? (store.find path)

theorem leads_eq_some_iff : FileView.leads store path = some slot ↔ ∃ bytes, store.find path = .file slot bytes := by
  change fileNames? (store.find path) = some slot ↔ _
  cases store.find path <;> simp [fileNames?]

theorem sameOutside_put (isOpen : store.IsOpen names) (bytes : Text.Bytes) :
    FileView.SameOutside (· = names) store (store.put names bytes) := by
  constructor
  · intro other different
    exact (lookup_put store names other bytes).trans (if_neg different)
  · intro path slot led
    obtain ⟨old, found⟩ := leads_eq_some_iff.1 led
    have writable : store.writable path = .ok slot := by rw [writable_eq_ok_iff, found, Target.slot?]
    rw [leads_eq_some_iff, find_put isOpen writable, found, Target.filled]
    split
    · rename_i same
      cases same
      exact ⟨bytes, rfl⟩
    · exact ⟨old, rfl⟩

instance : LawfulFileSystem FileStore where
  openToWrite := by
    intro before after path place opens
    simp only [FileSystem.openToWrite] at opens
    split at opens
    · rename_i names found
      cases opens
      have isOpen := isOpen_of_writable found
      refine ⟨sameOutside_put isOpen [], leads_eq_some_iff.2 ⟨[], ?_⟩, (lookup_put before _ _ []).trans (if_pos rfl)⟩
      rw [find_put isOpen found, Target.filled, if_pos (writable_eq_ok_iff.1 found)]
    · cases opens
  write := by
    intro before after place bytes empty writes
    cases writes
    have isOpen : before.IsOpen place := fun missing => absurd (empty.symm.trans missing) (by simp)
    exact ⟨sameOutside_put isOpen bytes, (lookup_put before place place bytes).trans (if_pos rfl)⟩

end FileStore

end Utterance
