import WalkFilter.Proofs.Filter.SourceTokens
import WalkFilter.Proofs.Text.Utf8

/-!
# Filter files that cannot be read

Filter files are loaded one after another. The first that cannot be read ends the loading: the
builder keeps the filters of the files in front of it and gets none from this file, wherever in it
the fault may be.
-/

namespace WalkFilter

namespace Files

/-- The path leads to a file in UTF-8. -/
def Readable (files : Files) (path : Path) : Prop :=
  ∃ bytes, files path = .file bytes ∧ Text.Utf8.IsUtf8 bytes

/-- The error says what the path leads to instead of a file in UTF-8. -/
inductive FailsWith (files : Files) (path : Path) : ReadError → Prop where
  | missing (found : files path = .missing) : FailsWith files path (.missing .filter path)
  | tooLong (found : files path = .tooLong) : FailsWith files path (.tooLong path)
  | directory (found : files path = .directory) : FailsWith files path (.directory path)
  | undecodable {bytes : List UInt8} {fault : Text.Utf8.Fault} (found : files path = .file bytes)
    (first : Text.Utf8.decode bytes = .error fault) : FailsWith files path (.undecodable fault)

variable {files : Files} {path : Path}

theorem readFilters_of_failsWith {error : ReadError} (fails : files.FailsWith path error) :
    files.readFilters path = .error error := by
  rw [readFilters, readLines]
  cases fails with
  | missing found | tooLong found | directory found =>
      rw [found]
      rfl
  | undecodable found first =>
      rw [found]
      simp only [first]
      rfl

theorem exists_readFilters (readable : files.Readable path) :
    ∃ filters, files.readFilters path = .ok filters := by
  obtain ⟨bytes, found, utf8⟩ := readable
  obtain ⟨text, decoded⟩ := Text.Utf8.isUtf8_iff.mp utf8
  refine ⟨filtersOfLines (linesOfText text), ?_⟩
  rw [readFilters, readLines, found]
  simp only [decoded]
  rfl

/-- What is not read is told by an error. -/
theorem exists_failsWith (unreadable : ¬files.Readable path) :
    ∃ error, files.FailsWith path error := by
  cases found : files path with
  | missing => exact ⟨_, .missing found⟩
  | tooLong => exact ⟨_, .tooLong found⟩
  | directory => exact ⟨_, .directory found⟩
  | file bytes =>
      cases decoded : Text.Utf8.decode bytes with
      | error fault => exact ⟨_, .undecodable found decoded⟩
      | ok text =>
          exact absurd ⟨bytes, found, Text.Utf8.isUtf8_iff.mpr ⟨text, decoded⟩⟩ unreadable

end Files

namespace Loaded

/-- What adding a single source leads to: a source that cannot be read leaves the builder alone. -/
def ofAdded (builder : Builder) : Except ReadError Builder → Loaded
  | .ok after => ⟨after, none⟩
  | .error error => ⟨builder, some error⟩

/-- Loads further files unless the loading has ended. -/
def thenLoad (files : Files) (loaded : Loaded) (paths : List Path) : Loaded :=
  match loaded.error with
  | none => loaded.builder.loadFilters files paths
  | some _ => loaded

theorem thenLoad_nil (files : Files) (loaded : Loaded) : loaded.thenLoad files [] = loaded := by
  obtain ⟨builder, error⟩ := loaded
  cases error <;> rfl

end Loaded

namespace Builder

variable {files : Files} {builder : Builder}

theorem addSource_of_failsWith {path : Path} {error : ReadError}
    (fails : files.FailsWith path error) :
    builder.addSource files (.file path) = .error error := by
  rw [addSource, Files.readFilters_of_failsWith fails]
  rfl

theorem addSource_of_readable {path : Path} (readable : files.Readable path) :
    builder.addSource files (.file path) =
      .ok (builder.addTokens (sourceTokens files (.file path))) := by
  obtain ⟨filters, read⟩ := Files.exists_readFilters readable
  have added : builder.addSource files (.file path) = .ok (builder.addFilters filters) := by
    rw [addSource, read]
    rfl
  rw [added, ← addSource_eq_addTokens added]

theorem loadFilters_cons (files : Files) (builder : Builder) (path : Path) (rest : List Path) :
    builder.loadFilters files (path :: rest) =
      (Loaded.ofAdded builder (builder.addSource files (.file path))).thenLoad files rest := by
  rw [loadFilters, addSource]
  cases files.readFilters path <;> rfl

/-- Files can be loaded in two goes. -/
theorem loadFilters_append (files : Files) (builder : Builder) (left right : List Path) :
    builder.loadFilters files (left ++ right) =
      (builder.loadFilters files left).thenLoad files right := by
  induction left generalizing builder with
  | nil => rfl
  | cons path rest induction =>
      rw [List.cons_append, loadFilters_cons, loadFilters_cons]
      cases builder.addSource files (.file path) with
      | error error => rfl
      | ok after => exact induction after

/-- Files that can all be read give the builder the tokens of each of them. -/
theorem loadFilters_of_readable {paths : List Path}
    (readable : ∀ path ∈ paths, files.Readable path) :
    builder.loadFilters files paths =
      ⟨builder.addTokens (paths.flatMap fun path => sourceTokens files (.file path)), none⟩ := by
  induction paths generalizing builder with
  | nil => rfl
  | cons path rest induction =>
      obtain ⟨first_readable, rest_readable⟩ := List.forall_mem_cons.mp readable
      rw [loadFilters_cons, addSource_of_readable first_readable, List.flatMap_cons,
        addTokens_append]
      exact induction rest_readable

theorem loadFilters_singleton (files : Files) (builder : Builder) (path : Path) :
    builder.loadFilters files [path] =
      .ofAdded builder (builder.addSource files (.file path)) := by
  rw [loadFilters_cons, Loaded.thenLoad_nil]

/-- The first file that cannot be read ends the loading with its error, and the builder is left as
loading the files before it leaves it: with the tokens of all of these and nothing else. Loading
files in two goes is loading them in one, and a single path stands for the list of it. -/
theorem loadFilters_upToUnreadable (files : Files) (builder : Builder) :
    (∀ before path after, (∀ earlier ∈ before, files.Readable earlier) → ¬files.Readable path →
        ∃ error, files.FailsWith path error ∧
          builder.loadFilters files (before ++ path :: after) =
            ⟨(builder.loadFilters files before).builder, some error⟩ ∧
          builder.loadFilters files before =
            ⟨builder.addTokens (before.flatMap fun earlier => sourceTokens files (.file earlier)),
              none⟩) ∧
      (∀ left right, builder.loadFilters files (left ++ right) =
        (builder.loadFilters files left).thenLoad files right) ∧
      ∀ path, builder.loadFilters files [path] =
        .ofAdded builder (builder.addSource files (.file path)) := by
  refine ⟨?_, loadFilters_append files builder, loadFilters_singleton files builder⟩
  intro before path after readable unreadable
  obtain ⟨error, fails⟩ := Files.exists_failsWith unreadable
  have loaded : builder.loadFilters files before = _ := loadFilters_of_readable readable
  refine ⟨error, fails, ?_, loaded⟩
  rw [loadFilters_append, loaded, Loaded.thenLoad, loadFilters_cons, addSource_of_failsWith fails]
  rfl

/-- A bad byte behind good lines, in the second of three files. -/
theorem loadFilters_upToUnreadable_lastByteBad :
    let good := Path.ofText "good"
    let bad := Path.ofText "bad"
    let files : Files := fun path =>
      if path = good then .file "Person|-Secret\n# City\n>Town".toUTF8.data.toList
      else if path = bad then .file ("/Company\n-Town\n".toUTF8.data.toList ++ [0xFF])
      else .missing
    let builder := Builder.ofFilter (some ">Street")
    ∃ error, files.FailsWith bad error ∧ builder.loadFilters files [good, bad, good] =
      ⟨builder.addTokens ["Person", "-Secret", ">Town"], some error⟩ := by
  intro good bad files builder
  have good_readable : files.Readable good := ⟨_, rfl, _, rfl⟩
  have bad_unreadable : ¬files.Readable bad := by
    rintro ⟨bytes, found, utf8⟩
    obtain ⟨text, decoded⟩ := Text.Utf8.isUtf8_iff.mp utf8
    have stored : files bad = .file ("/Company\n-Town\n".toUTF8.data.toList ++ [0xFF]) := rfl
    have faulty : Text.Utf8.decode ("/Company\n-Town\n".toUTF8.data.toList ++ [0xFF]) =
        .error ⟨15, 15, 0xFF, .invalidStart⟩ := by decide +kernel
    rw [stored] at found
    rw [← Content.file.inj found, faulty] at decoded
    cases decoded
  have good_tokens : sourceTokens files (.file good) = ["Person", "-Secret", ">Town"] := by
    decide +kernel
  obtain ⟨error, fails, loaded, before_loaded⟩ := (loadFilters_upToUnreadable files builder).1
    [good] bad [good] (by simpa using good_readable) bad_unreadable
  refine ⟨error, fails, ?_⟩
  rw [before_loaded] at loaded
  simpa [good_tokens] using loaded

end Builder

end WalkFilter
