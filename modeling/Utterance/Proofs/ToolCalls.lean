import Utterance.Proofs.Journal
import Utterance.Proofs.StoreLaws
import Utterance.Text.Encoding.Known

/-!
# What the compiling tool finds

A toolchain is worked with in tasks: its session changes, its base name changes, files are written and deleted, and
tools are run by a runner that may do anything to the files and may fail. Whatever was done before, compiling calls the
runner once if both files can be written, with the base name as it is, and not at all otherwise. The runner then finds
the texts of the session in the files whose names are this base name with the extensions after it (`calls_compile`), on
any machine whose files keep what is written to them. Only where both names lead to one file it finds the grammar in
both.
-/

namespace Utterance
set_option autoImplicit false

variable {σ φ : Type}

/-- A call of a runner: the command with its arguments, and the files that it finds. -/
structure Call (φ : Type) where
  args : List String
  files : φ

/-- The runner, which also notes its calls. -/
def Runner.recorded (runner : Runner σ φ) : Runner (σ × List (Call φ)) φ where
  announces := runner.announces
  run
    | (state, calls), files, args =>
      let (next, after, result) := runner.run state files args
      ((next, calls ++ [⟨args, files⟩]), after, result)

/-- Both files of a session can be written: the base name has a last part to which an extension can be added, the
vocabulary can be put into its file, and then the grammar into its own. -/
structure Toolchain.CanWrite [Text.Codecs] [FileSystem φ] (toolchain : Toolchain) (files : φ) (session : Session) :
    Prop where
  named : toolchain.base.name ≠ ""
  stored : ∃ middle after : φ,
    FileSystem.Stores files middle (Path.ofText (toolchain.base.text ++ ".voca")) toolchain.encoding
      session.vocabulary.text ∧
    FileSystem.Stores middle after (Path.ofText (toolchain.base.text ++ ".grammar")) toolchain.encoding
      session.grammar.text

/-- What can be done with a toolchain and its session. -/
inductive Task where
  | perform (operation : Operation)
  | rename (base : String)
  | write
  | compile
  | sample
  | delete

/-- A toolchain with its session, the files, and the state of the runner. -/
structure Workshop (σ φ : Type) where
  toolchain : Toolchain
  session : Session
  workspace : Workspace σ φ

namespace Workshop

variable [Limits] [Text.Codecs] [FileSystem φ]

/-- The workshop with other files. -/
def withFiles (shop : Workshop σ φ) (files : φ) : Workshop σ φ :=
  { shop with workspace := { shop.workspace with files } }

/-- Does a task; one that fails leaves what it has done to the files. -/
def step (runner : Runner σ φ) (transliterate : Transliterator) (shop : Workshop σ φ) : Task → Workshop σ φ
  | .perform operation => { shop with session := shop.session.after transliterate operation }
  | .rename base => { shop with toolchain := { shop.toolchain with base := Path.ofText base } }
  | .write => shop.withFiles (shop.toolchain.writeFiles shop.workspace.files shop.session).1
  | .compile => { shop with workspace := (shop.toolchain.compile runner shop.workspace shop.session).1 }
  | .sample => { shop with workspace := (shop.toolchain.sample runner shop.workspace).1 }
  | .delete => shop.withFiles (shop.toolchain.deleteFiles shop.workspace.files).1

/-- Does tasks one after the other. -/
def run (runner : Runner σ φ) (transliterate : Transliterator) (shop : Workshop σ φ) (tasks : List Task) :
    Workshop σ φ :=
  tasks.foldl (step runner transliterate) shop

/-- The calls so far. -/
def calls (shop : Workshop (σ × List (Call φ)) φ) : List (Call φ) := shop.workspace.tools.2

/-- The workshop without the note of the calls. -/
def plain (shop : Workshop (σ × List (Call φ)) φ) : Workshop σ φ :=
  { shop with workspace := ⟨shop.workspace.files, shop.workspace.tools.1⟩ }

end Workshop

/-! ## Files that can be written -/

namespace Toolchain

section Normal

variable {toolchain : Toolchain} (normal : toolchain.base.IsNormal)

include normal

theorem ofText_vocabulary {path : Path} (named : toolchain.base.withExtension vocabularyExtension = .ok path) :
    Path.ofText (toolchain.base.text ++ ".voca") = path :=
  Path.ofText_append normal (by decide) (by decide) named

theorem ofText_grammar {path : Path} (named : toolchain.base.withExtension grammarExtension = .ok path) :
    Path.ofText (toolchain.base.text ++ ".grammar") = path :=
  Path.ofText_append normal (by decide) (by decide) named

variable [Text.Codecs] [FileSystem φ] {before : φ} {session : Session}

/-- Files are written exactly if they can be written. -/
theorem exists_writeFiles_iff : (∃ after paths, toolchain.writeFiles before session = (after, .ok paths)) ↔
    toolchain.CanWrite before session := by
  constructor
  · rintro ⟨after, paths, written⟩
    obtain ⟨middle, _, _, named, namedToo, _, stored, storedToo⟩ := writeFiles_eq_ok_iff.1 written
    rw [← ofText_vocabulary normal named] at stored
    rw [← ofText_grammar normal namedToo] at storedToo
    exact ⟨(Path.withExtension_eq_ok named).1, middle, after, stored, storedToo⟩
  · rintro ⟨hasName, middle, after, stored, storedToo⟩
    have longer {extension : String} (nonempty : extension.toList ≠ []) (noSlash : '/' ∉ extension.toList) :
        ∃ path, toolchain.base.withExtension extension = .ok path :=
      (Path.withExtension_eq_ok_iff normal nonempty noSlash).2 hasName
    obtain ⟨vocabulary, named⟩ := @longer vocabularyExtension (by decide) (by decide)
    obtain ⟨grammar, namedToo⟩ := @longer grammarExtension (by decide) (by decide)
    rw [ofText_vocabulary normal named] at stored
    rw [ofText_grammar normal namedToo] at storedToo
    exact ⟨after, _, writeFiles_eq_ok_iff.2 ⟨middle, vocabulary, grammar, named, namedToo, rfl, stored, storedToo⟩⟩

/-- Compiling runs the tool on the files that were written, exactly if both can be written. -/
theorem compile_cases (runner : Runner σ φ) (workspace : Workspace σ φ) (session : Session) :
    (toolchain.CanWrite workspace.files session ∧ ∃ found paths,
      toolchain.writeFiles workspace.files session = (found, .ok paths) ∧
      toolchain.compile runner workspace session =
        toolchain.runTool runner { workspace with files := found } toolchain.compileCommand) ∨
    ¬toolchain.CanWrite workspace.files session ∧ ∃ left fault,
      toolchain.compile runner workspace session = ({ workspace with files := left }, .error fault) := by
  cases written : toolchain.writeFiles workspace.files session with
  | mk after result =>
    cases result with
    | ok paths =>
      refine .inl ⟨(exists_writeFiles_iff normal).1 ⟨after, paths, written⟩, after, paths, rfl, ?_⟩
      simp only [compile, written]
    | error fault =>
      refine .inr ⟨fun possible => ?_, after, fault, ?_⟩
      · obtain ⟨_, _, impossible⟩ := (exists_writeFiles_iff normal).2 possible
        cases written.symm.trans impossible
      · simp only [compile, written]

end Normal

end Toolchain

/-! ## Tasks -/

namespace Workshop

section

variable [Limits] [Text.Codecs] [FileSystem φ] {runner : Runner σ φ} {transliterate : Transliterator}

/-- Noting the calls changes nothing else. -/
theorem plain_step (shop : Workshop (σ × List (Call φ)) φ) (task : Task) :
    (shop.step runner.recorded transliterate task).plain = shop.plain.step runner transliterate task := by
  cases task with
  | compile =>
    simp only [step, plain, Toolchain.compile]
    split <;> rfl
  | _ => rfl

theorem plain_run (shop : Workshop (σ × List (Call φ)) φ) (tasks : List Task) :
    (shop.run runner.recorded transliterate tasks).plain = shop.plain.run runner transliterate tasks := by
  induction tasks generalizing shop with
  | nil => rfl
  | cons task rest ih =>
    rw [run, run, List.foldl_cons, List.foldl_cons, ← plain_step]
    exact ih _

/-- The base name is one that was read from a text, and the rest of the toolchain is as it was. -/
structure Keeps (toolchain : Toolchain) (shop : Workshop σ φ) : Prop where
  normal : shop.toolchain.base.IsNormal
  same : shop.toolchain = { toolchain with base := shop.toolchain.base }

theorem Keeps.step {toolchain : Toolchain} {shop : Workshop σ φ} (keeps : shop.Keeps toolchain) (task : Task) :
    (shop.step runner transliterate task).Keeps toolchain := by
  cases task with
  | rename base =>
    refine ⟨Path.isNormal_ofText base, ?_⟩
    simp only [Workshop.step]
    rw [keeps.same]
  | _ => exact ⟨keeps.normal, keeps.same⟩

theorem Keeps.run {toolchain : Toolchain} {shop : Workshop σ φ} (keeps : shop.Keeps toolchain) (tasks : List Task) :
    (shop.run runner transliterate tasks).Keeps toolchain := by
  induction tasks generalizing shop with
  | nil => exact keeps
  | cons task rest ih => exact ih (keeps.step task)

/-- After any tasks, compiling calls the runner once if both files can be written, and else not at all. It is called
with the base name, and in the files with this name and an extension after it, it finds the texts of the session; the
two names must not lead to one file. -/
theorem calls_compile [FileView φ] [LawfulFileSystem φ] (runner : Runner σ φ) (transliterate : Transliterator)
    (base compileCommand sampleCommand encoding : String) (session : Session) (files : φ) (state : σ)
    (tasks : List Task) :
    let start : Workshop (σ × List (Call φ)) φ :=
      ⟨⟨Path.ofText base, compileCommand, sampleCommand, encoding⟩, session, files, (state, [])⟩
    let shop := start.run runner.recorded transliterate tasks
    let name := shop.toolchain.base.text
    let next := shop.step runner.recorded transliterate .compile
    shop.plain = start.plain.run runner transliterate tasks ∧
      ((shop.toolchain.CanWrite shop.workspace.files shop.session ∧ ∃ found : φ,
          next.calls = shop.calls ++ [⟨[compileCommand, name], found⟩] ∧
          (FileView.Apart found (Path.ofText (name ++ ".voca")) (Path.ofText (name ++ ".grammar")) →
            FileView.Holds found (Path.ofText (name ++ ".voca")) encoding shop.session.vocabulary.text) ∧
          FileView.Holds found (Path.ofText (name ++ ".grammar")) encoding shop.session.grammar.text) ∨
        ¬shop.toolchain.CanWrite shop.workspace.files shop.session ∧ next.calls = shop.calls) := by
  intro start shop name next
  refine ⟨plain_run start tasks, ?_⟩
  have first : start.Keeps start.toolchain := ⟨Path.isNormal_ofText base, rfl⟩
  have keeps : shop.Keeps start.toolchain := first.run tasks
  have command : shop.toolchain.compileCommand = compileCommand := by rw [keeps.same]
  have sameEncoding : shop.toolchain.encoding = encoding := by rw [keeps.same]
  obtain ⟨possible, found, paths, written, calls⟩ | ⟨impossible, left, fault, fails⟩ :=
    Toolchain.compile_cases keeps.normal runner.recorded shop.workspace shop.session
  · obtain ⟨vocabulary, grammar, named, namedToo, holds, holdsToo, _⟩ := Toolchain.writeFiles_eq_ok written
    rw [sameEncoding] at holds holdsToo
    rw [← Toolchain.ofText_vocabulary keeps.normal named, ← Toolchain.ofText_grammar keeps.normal namedToo] at holds
    rw [← Toolchain.ofText_grammar keeps.normal namedToo] at holdsToo
    refine .inl ⟨possible, found, ?_, holds, holdsToo⟩
    rw [← command]
    simp only [next, step, calls]
    rfl
  · refine .inr ⟨impossible, ?_⟩
    simp only [next, step, fails]
    rfl

end

section

open scoped Workstation

/-- Two dots are a name like any other, and the files stand beside what they lead to. -/
theorem calls_compile_dots :
    let start : Workshop (Runner.Script × List (Call FileStore)) FileStore :=
      ⟨⟨Path.ofText "home//./..", "mkdfa.pl", "generate", "utf-8"⟩, {}, FileStore.empty ["home"], (⟨[], []⟩, [])⟩
    let shop := start.run (Runner.recorded .scripted) .verbatim [.rename "/home/./.."]
    ∃ found, (shop.step (Runner.recorded .scripted) .verbatim .compile).calls = [⟨["mkdfa.pl", "/home/.."], found⟩] ∧
      FileView.Holds found (Path.ofText "/home/...voca") "utf-8" shop.session.vocabulary.text ∧
      FileView.Holds found (Path.ofText "/home/...grammar") "utf-8" shop.session.grammar.text := by
  intro start shop
  have named : shop.toolchain.base.text = "/home/.." := by decide +kernel
  have fresh : shop.calls.length = 0 := by decide +kernel
  have once : (shop.step (Runner.recorded .scripted) .verbatim .compile).calls.length = 1 := by decide +kernel
  have apart : (shop.step (Runner.recorded .scripted) .verbatim .compile).calls.all (fun call =>
      FileStore.fileNames? (call.files.find (Path.ofText "/home/...voca")) !=
        FileStore.fileNames? (call.files.find (Path.ofText "/home/...grammar"))) = true := by
    decide +kernel
  obtain ⟨_, ⟨_, found, calls, holds, holdsToo⟩ | ⟨_, silent⟩⟩ :=
    calls_compile .scripted .verbatim "home//./.." "mkdfa.pl" "generate" "utf-8" {} (FileStore.empty ["home"]) ⟨[], []⟩
      [.rename "/home/./.."]
  · rw [List.eq_nil_of_length_eq_zero fresh, named] at calls
    rw [named] at holds holdsToo
    have different : FileStore.fileNames? (found.find (Path.ofText "/home/...voca")) ≠
        FileStore.fileNames? (found.find (Path.ofText "/home/...grammar")) := by
      rw [calls] at apart
      simpa using apart
    exact ⟨found, calls, holds fun place led ledToo => different (led.trans ledToo.symm), holdsToo⟩
  · rw [silent, fresh] at once
    cases once

end

end Workshop

end Utterance
