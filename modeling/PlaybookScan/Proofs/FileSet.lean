import PlaybookScan.Proofs.InputFile

/-!
# File sets and what was added to them

`fill base calls` is what calls make of the empty set at `base`, and `added base calls` are the
files of those that succeeded. Such a call adds its file, any other one leaves the set as it is
(`perform_eq`). A file comes last if its URI is new, and else takes the place of the file with its
URI (`place_eq_set`), so that a set that was filled has each URI where it came first
(`uris_foldl_add`), with the file that came last under it (`find?_foldl_add`).
-/

set_option autoImplicit false

namespace PlaybookScan.FileSet

open Grouping

/-- A call that adds a file. Relative paths may be seen from another working directory each time. -/
inductive Addition where
  | given (file : InputFile)
  | relative (cwd : WorkingDir) (path : Path) (language : String)

/-- The file that a call adds to a set at `base`, if it succeeds. -/
def Addition.file? (base : Path) : Addition → Option InputFile
  | given file => some file
  | relative cwd path language =>
    (InputFile.create cwd (base.join path) language).toOption.map (·.withKey path.text)

/-- The set after a call. -/
def perform (s : FileSet) : Addition → FileSet
  | .given file => s.add file
  | .relative cwd path language => (s.addRelative cwd path language).2

/-- The set at `base` after some calls. -/
def fill (base : Path) (calls : List Addition) : FileSet := calls.foldl perform (.empty base)

/-- The files that were added, in the order of the calls. -/
def added (base : Path) (calls : List Addition) : List InputFile :=
  calls.filterMap (Addition.file? base)

/-! ## One file -/

theorem place_eq_set {file old : InputFile} {fs : List InputFile} {i : Nat}
    (hfs : (fs.map InputFile.uri).Nodup) (hi : fs[i]? = some old) (hold : old.uri = file.uri) :
    place file fs = fs.set i file := by
  induction fs generalizing i with
  | nil => simp at hi
  | cons f fs ih =>
    obtain ⟨hf, hfs⟩ := List.nodup_cons.1 hfs
    cases i with
    | zero =>
      obtain rfl : f = old := by simpa using hi
      rw [place, if_pos hold, List.set_cons_zero]
    | succ i =>
      rw [List.getElem?_cons_succ] at hi
      have hne : f.uri ≠ file.uri := by
        intro he
        exact hf (he ▸ hold ▸ List.mem_map_of_mem (List.mem_of_getElem? hi))
      rw [place, if_neg hne, ih hfs hi, List.set_cons_succ]

theorem perform_eq (s : FileSet) (call : Addition) :
    s.perform call = (call.file? s.baseDir).elim s s.add := by
  cases call with
  | given file => rfl
  | relative cwd path language =>
    cases hu : FileUri.ofPath cwd (s.baseDir.join path) with
    | error e =>
      rw [perform, addRelative_of_error s language hu, Addition.file?,
        InputFile.create_of_error hu]
      rfl
    | ok u =>
      rw [perform, addRelative_of_ok s language hu, Addition.file?, InputFile.create_of_ofPath hu]
      rfl

/-! ## One file after another -/

theorem fill_eq (base : Path) (calls : List Addition) :
    fill base calls = (added base calls).foldl add (.empty base) := by
  suffices h : ∀ s : FileSet, calls.foldl perform s = (added s.baseDir calls).foldl add s from
    h (.empty base)
  induction calls with
  | nil => exact fun _ => rfl
  | cons call calls ih =>
    intro s
    rw [List.foldl_cons, ih, perform_eq]
    cases hfile : call.file? s.baseDir with
    | none => simp [added, hfile]
    | some file => simp [added, hfile, add]

theorem uris_foldl_add (base : Path) (files : List InputFile) :
    (files.foldl add (.empty base)).files.map InputFile.uri =
      (files.map InputFile.uri).eraseDups := by
  induction files using List.reverseRecOn with
  | nil => rfl
  | append_singleton files file ih =>
    rw [List.foldl_concat, List.map_append, List.map_singleton, eraseDups_concat, ← ih]
    exact map_uri_place file _

theorem find?_foldl_add (base : Path) (files : List InputFile) (uri : FileUri) :
    (files.foldl add (.empty base)).find? uri = (files.filter (·.uri == uri)).getLast? := by
  induction files using List.reverseRecOn with
  | nil => rfl
  | append_singleton files file ih =>
    rw [List.foldl_concat, find?_add, ih, List.filter_append]
    by_cases hu : file.uri = uri <;> simp [hu]

theorem baseDir_foldl_add (s : FileSet) (files : List InputFile) :
    (files.foldl add s).baseDir = s.baseDir := by
  induction files generalizing s with
  | nil => rfl
  | cons file files ih => exact ih (s.add file)

/-! ## A relative path -/

section
variable (s : FileSet) (cwd : WorkingDir) (relative : Path) (language : String)

/-- A call with a relative path fails just if the joined path has no URI, and with that error. -/
theorem addRelative_eq_error_iff (e : HostError) :
    (s.addRelative cwd relative language).1 = .error e ↔
      FileUri.ofPath cwd (s.baseDir.join relative) = .error e := by
  cases hu : FileUri.ofPath cwd (s.baseDir.join relative) with
  | error e' => rw [addRelative_of_error s language hu]; simp
  | ok u => rw [addRelative_of_ok s language hu]; simp

end

/-- **What was added is what a set holds.** Its files stand in the order in which their URIs were
first added, each URI once, and the file added last is found under it. A relative path is refused
just if the joined path is empty, and then nothing has changed. -/
theorem fill_holds_added (base : Path) (calls : List Addition) :
    let s := fill base calls
    (s.files.map InputFile.uri).Nodup ∧
    s.files.map InputFile.uri = ((added base calls).map InputFile.uri).eraseDups ∧
    (∀ uri, s.find? uri = ((added base calls).filter (·.uri == uri)).getLast?) ∧
    (∀ file old i, s.files[i]? = some old → old.uri = file.uri →
      (s.add file).files = s.files.set i file) ∧
    (∀ file, file.uri ∉ s.files.map InputFile.uri → (s.add file).files = s.files ++ [file]) ∧
    ∀ cwd relative language,
      (∀ file, (s.addRelative cwd relative language).1 = .ok file →
        (s.addRelative cwd relative language).2 = s.add file ∧
          FileUri.ofPath cwd (base.join relative) = .ok file.uri ∧ file.key = relative.text) ∧
      (∀ e, (s.addRelative cwd relative language).1 = .error e →
        (s.addRelative cwd relative language).2 = s ∧
          FileUri.ofPath cwd (base.join relative) = .error e) ∧
      ((∃ e, (s.addRelative cwd relative language).1 = .error e) ↔
        (base.join relative).isEmpty = true) := by
  intro s
  have hs : s = (added base calls).foldl add (.empty base) := fill_eq base calls
  clear_value s
  have hbase : s.baseDir = base := by rw [hs, baseDir_foldl_add]; rfl
  have huris : s.files.map InputFile.uri = ((added base calls).map InputFile.uri).eraseDups := by
    rw [hs, uris_foldl_add]
  have hnodup : (s.files.map InputFile.uri).Nodup := huris ▸ nodup_eraseDups _
  refine ⟨hnodup, huris, fun uri => by rw [hs, find?_foldl_add],
    fun _ _ _ => place_eq_set hnodup, fun _ => place_of_not_mem, ?_⟩
  intro cwd relative language
  refine ⟨?success, ?failure, ?failing⟩
  case success =>
    intro file hfile
    cases hu : FileUri.ofPath cwd (s.baseDir.join relative) with
    | error e => simp [addRelative_of_error s language hu] at hfile
    | ok u =>
      rw [addRelative_of_ok s language hu] at hfile ⊢
      obtain rfl := Except.ok.inj hfile
      exact ⟨rfl, hbase ▸ hu, rfl⟩
  case failure =>
    intro e he
    have hu := (addRelative_eq_error_iff s cwd relative language e).1 he
    exact ⟨by rw [addRelative_of_error s language hu], hbase ▸ hu⟩
  case failing =>
    simp only [addRelative_eq_error_iff, hbase, FileUri.exists_ofPath_eq_error_iff]

end PlaybookScan.FileSet
