import Utterance.Proofs.PathText
import Utterance.Toolchain.Basic

/-!
# What writing does to files

Of a machine's files it is only relied on that they keep what is written to them (`LawfulFileSystem`): a file that was
opened for writing is empty, what is written to it is then all that it holds, and no other file changes. So the grammar
holds what was written to it, and so does the vocabulary, unless both names lead to one file (`writeFiles_eq_ok`).
-/

namespace Utterance
set_option autoImplicit false

/-- What can be seen of the files in some state. -/
class FileView (φ : Type) [FileSystem φ] where
  /-- what the file at a place holds, if there is one -/
  contents : φ → FileSystem.Place φ → Option Text.Bytes
  /-- the place of the file that a path leads to, if it leads to one -/
  leads : φ → Path → Option (FileSystem.Place φ)

namespace FileView

variable {φ : Type} [FileSystem φ] [FileView φ]

/-- Only the files at some places may differ, and whatever path led to a file leads to it still. -/
structure SameOutside (touched : FileSystem.Place φ → Prop) (before after : φ) : Prop where
  contents : ∀ place, ¬touched place → contents after place = contents before place
  leads : ∀ path place, leads before path = some place → leads after path = some place

/-- Two paths do not lead to one file. -/
def Apart (files : φ) (first second : Path) : Prop :=
  ∀ place, leads files first = some place → leads files second ≠ some place

/-- The file that a path leads to holds a text, and nothing else. -/
def Holds [Text.Codecs] (files : φ) (path : Path) (encoding text : String) : Prop :=
  ∃ place bytes, Text.encode encoding text = .ok bytes ∧ leads files path = some place ∧ contents files place = some bytes

variable {touched more : FileSystem.Place φ → Prop} {before middle after : φ}

theorem SameOutside.refl (touched : FileSystem.Place φ → Prop) (files : φ) : SameOutside touched files files :=
  ⟨fun _ _ => rfl, fun _ _ led => led⟩

theorem SameOutside.trans (first : SameOutside touched before middle) (second : SameOutside more middle after) :
    SameOutside (fun place => touched place ∨ more place) before after := by
  refine ⟨fun place other => ?_, fun path place led => second.leads path place (first.leads path place led)⟩
  rw [second.contents place fun later => other (.inr later), first.contents place fun earlier => other (.inl earlier)]

theorem SameOutside.mono (same : SameOutside touched before after) (wider : ∀ place, touched place → more place) :
    SameOutside more before after :=
  ⟨fun place other => same.contents place fun inside => other (wider place inside), same.leads⟩

end FileView

open FileView (contents leads SameOutside)

/-- Files keep what is written to them. -/
class LawfulFileSystem (φ : Type) [FileSystem φ] [FileView φ] : Prop where
  /-- a file that was opened for writing is empty, and the path leads to it -/
  openToWrite : ∀ {before after : φ} {path : Path} {place : FileSystem.Place φ},
    FileSystem.openToWrite before path = (after, .ok place) →
      SameOutside (· = place) before after ∧ leads after path = some place ∧ contents after place = some []
  /-- an empty file holds what is written to it -/
  write : ∀ {before after : φ} {place : FileSystem.Place φ} {bytes : Text.Bytes}, contents before place = some [] →
    FileSystem.write before place bytes = (after, .ok ()) →
      SameOutside (· = place) before after ∧ contents after place = some bytes

/-! ## Writing a text -/

theorem Text.hasNull_eq_true_iff {text : String} : hasNull text = true ↔ '\x00' ∈ text.toList := by
  simp [hasNull]

namespace FileSystem

variable {φ : Type} [FileSystem φ] [Text.Codecs] {before after : φ} {path : Path} {encoding text : String}

/-- A text is put into the file that a path leads to: the encoding has a proper name, the file is opened, the text is
encoded, and its bytes are written. -/
def Stores (before after : φ) (path : Path) (encoding text : String) : Prop :=
  '\x00' ∉ encoding.toList ∧ ∃ opened place bytes, openToWrite before path = (opened, .ok place) ∧
    Text.encode encoding text = .ok bytes ∧ write opened place bytes = (after, .ok ())

theorem writeText_eq_ok_iff : writeText before path text encoding = (after, .ok ()) ↔
    Stores before after path encoding text := by
  unfold writeText Stores
  simp only [Text.hasNull_eq_true_iff]
  split
  · rename_i improper
    simp [improper]
  · rename_i proper
    cases opens : openToWrite before path with
    | mk opened result =>
      cases result with
      | error fault => simp
      | ok place =>
        cases encoded : Text.encode encoding text with
        | error fault => simp
        | ok bytes =>
          constructor
          · exact fun writes => ⟨proper, opened, place, bytes, rfl, rfl, writes⟩
          · rintro ⟨_, _, _, _, ⟨⟩, ⟨⟩, writes⟩
            exact writes

/-- What was put into a file is what the file holds, and no other file has changed. -/
theorem Stores.holds [FileView φ] [LawfulFileSystem φ] (stored : Stores before after path encoding text) :
    ∃ place bytes, Text.encode encoding text = .ok bytes ∧ leads after path = some place ∧
      contents after place = some bytes ∧ SameOutside (· = place) before after := by
  obtain ⟨_, opened, place, bytes, opens, encoded, writes⟩ := stored
  obtain ⟨sameFirst, led, empty⟩ := LawfulFileSystem.openToWrite opens
  obtain ⟨sameThen, holds⟩ := LawfulFileSystem.write empty writes
  refine ⟨place, bytes, encoded, sameThen.leads path place led, holds, (sameFirst.trans sameThen).mono ?_⟩
  rintro other (same | same) <;> exact same

end FileSystem

/-! ## The files of a grammar -/

namespace Toolchain

variable {φ : Type} [FileSystem φ] [Text.Codecs] {toolchain : Toolchain} {before after : φ} {extension text : String}
  {path : Path} {session : Session}

theorem writeFile_eq_ok_iff : toolchain.writeFile before extension text = (after, .ok path) ↔
    toolchain.base.withExtension extension = .ok path ∧
      FileSystem.Stores before after path toolchain.encoding text := by
  have named : toolchain.pathFor extension = .ok path ↔ toolchain.base.withExtension extension = .ok path :=
    mapError_eq_ok_iff
  rw [← named, ← FileSystem.writeText_eq_ok_iff, writeFile]
  cases toolchain.pathFor extension with
  | error fault => simp
  | ok known =>
    cases wrote : FileSystem.writeText before known text toolchain.encoding with
    | mk left result =>
      simp only [wrote]
      cases result with
      | error fault =>
        refine iff_of_false (by simp) ?_
        rintro ⟨⟨⟩, stored⟩
        cases wrote.symm.trans stored
      | ok done =>
        constructor
        · rintro ⟨⟩
          exact ⟨rfl, wrote⟩
        · rintro ⟨⟨⟩, stored⟩
          cases wrote.symm.trans stored
          rfl

/-- The vocabulary is written first, and the grammar next to it. -/
theorem writeFiles_eq_ok_iff {paths : List Path} : toolchain.writeFiles before session = (after, .ok paths) ↔
    ∃ middle vocabulary grammar, toolchain.base.withExtension vocabularyExtension = .ok vocabulary ∧
      toolchain.base.withExtension grammarExtension = .ok grammar ∧ paths = [vocabulary, grammar] ∧
      FileSystem.Stores before middle vocabulary toolchain.encoding session.vocabulary.text ∧
      FileSystem.Stores middle after grammar toolchain.encoding session.grammar.text := by
  constructor
  · intro written
    unfold writeFiles at written
    split at written
    · cases written
    · rename_i middle vocabulary wroteVocabulary
      split at written
      · cases written
      · rename_i last grammar wroteGrammar
        cases written
        obtain ⟨named, stored⟩ := writeFile_eq_ok_iff.1 wroteVocabulary
        obtain ⟨namedToo, storedToo⟩ := writeFile_eq_ok_iff.1 wroteGrammar
        exact ⟨middle, vocabulary, grammar, named, namedToo, rfl, stored, storedToo⟩
  · rintro ⟨middle, vocabulary, grammar, named, namedToo, rfl, stored, storedToo⟩
    simp only [writeFiles, writeFile_eq_ok_iff.2 ⟨named, stored⟩, writeFile_eq_ok_iff.2 ⟨namedToo, storedToo⟩]

/-- The files of a session hold its texts, unless both names lead to one file, and nothing else has changed. -/
theorem writeFiles_eq_ok [FileView φ] [LawfulFileSystem φ] {paths : List Path}
    (written : toolchain.writeFiles before session = (after, .ok paths)) :
    ∃ vocabulary grammar, toolchain.base.withExtension vocabularyExtension = .ok vocabulary ∧
      toolchain.base.withExtension grammarExtension = .ok grammar ∧
      (FileView.Apart after vocabulary grammar →
        FileView.Holds after vocabulary toolchain.encoding session.vocabulary.text) ∧
      FileView.Holds after grammar toolchain.encoding session.grammar.text ∧
      SameOutside (fun place => leads after vocabulary = some place ∨ leads after grammar = some place) before after := by
  obtain ⟨middle, vocabulary, grammar, named, namedToo, _, stored, storedToo⟩ := writeFiles_eq_ok_iff.1 written
  obtain ⟨place, bytes, encoded, led, holds, same⟩ := stored.holds
  obtain ⟨placeToo, bytesToo, encodedToo, ledToo, holdsToo, sameToo⟩ := storedToo.holds
  have ledThen := sameToo.leads vocabulary place led
  refine ⟨vocabulary, grammar, named, namedToo, fun apart => ?_, ⟨placeToo, bytesToo, encodedToo, ledToo, holdsToo⟩, ?_⟩
  · have different : place ≠ placeToo := by
      rintro rfl
      exact apart place ledThen ledToo
    exact ⟨place, bytes, encoded, ledThen, (sameToo.contents place different).trans holds⟩
  · refine (same.trans sameToo).mono ?_
    rintro other (rfl | rfl)
    · exact .inl ledThen
    · exact .inr ledToo

end Toolchain

end Utterance
