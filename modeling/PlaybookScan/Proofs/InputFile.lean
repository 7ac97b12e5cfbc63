import PlaybookScan.InputFile
import PlaybookScan.Lint.Profile
import PlaybookScan.Proofs.FileUri
import PlaybookScan.Proofs.List.Grouping

/-!
# The files that are offered

Every path but the empty one makes a file, whose path is the normal path read back from its URI, and
which is made again from that path (`InputFile.create_stable`). `InputFile.Built f`: `f` was made
so, its key or its number of lines perhaps set afterwards.

`FileSet.Built s`: `s` has been filled file by file. Such a set holds one file per URI
(`Built.nodup_uris`), since a file that is added either takes the place of the one with its URI or
brings a new URI (`map_uri_place`), and each of its files has been made from a path.
-/

set_option autoImplicit false

namespace PlaybookScan

namespace InputFile

theorem create_of_ofPath {cwd : WorkingDir} {p : Path} {u : FileUri}
    (h : FileUri.ofPath cwd p = .ok u) (language : String) :
    create cwd p language = .ok ⟨u.toPath.text, u.toPath, u, language, none⟩ := by
  rw [create, h]
  rfl

theorem create_of_error {cwd : WorkingDir} {p : Path} {e : HostError}
    (h : FileUri.ofPath cwd p = .error e) (language : String) :
    create cwd p language = .error e := by
  rw [create, h]
  rfl

/-- **A file is made again from its own path**, seen from any directory, and has the same URI then.
Its path is the normal path, with one more slash if that ends like a drive, and the URI is the same
with and without a slash. -/
theorem create_stable (cwd : WorkingDir) {p : Path} (hp : p.isEmpty = false) (language : String) :
    let normal := (cwd.absolute p).normalize
    ∃ file, create cwd p language = .ok file ∧
      file.key = file.path.text ∧ file.language = language ∧
      (FileUri.EndsInDrive normal.text.toList → file.path = ⟨normal.text ++ "/"⟩) ∧
      (¬ FileUri.EndsInDrive normal.text.toList → file.path = normal) ∧
      ∀ cwd' : WorkingDir,
        FileUri.ofPath cwd' normal = .ok file.uri ∧
        FileUri.ofPath cwd' ⟨normal.text ++ "/"⟩ = .ok file.uri ∧
        FileUri.ofPath cwd' file.path = .ok file.uri ∧
        ∀ language', create cwd' file.path language' = .ok { file with language := language' } := by
  intro normal
  obtain ⟨ns, hns, hn⟩ := Path.exists_normalize_eq_ofNames (cwd.isAbsolute_absolute p)
  have huri : FileUri.ofPath cwd p = .ok (FileUri.ofNormal (Path.ofNames ns)) :=
    hn ▸ FileUri.ofPath_of_not_isEmpty cwd hp
  rw [show normal = Path.ofNames ns from hn]
  refine ⟨_, create_of_ofPath huri language, rfl, rfl, FileUri.toPath_of_endsInDrive hns,
    FileUri.toPath_of_not_endsInDrive hns, fun cwd' => ?_⟩
  have hnames := FileUri.ofPath_ofNames cwd' hns
  have hslash : FileUri.ofPath cwd' ⟨(Path.ofNames ns).text ++ "/"⟩ =
      .ok (FileUri.ofNormal (Path.ofNames ns)) := by
    have habsolute := Path.isAbsolute_of_cons (Path.text_ofNames ns)
    rw [FileUri.ofPath_append_slash cwd' (Path.isEmpty_of_isAbsolute habsolute), hnames]
  have hown := (FileUri.isNormal_of_ofPath huri).ofPath_toPath cwd'
  exact ⟨hnames, hslash, hown, create_of_ofPath hown⟩

/-- A name that ends like a drive, behind dots. -/
theorem create_stable_drive :
    let cwd : WorkingDir := ⟨⟨"/w"⟩, rfl⟩
    let p : Path := ⟨"x/..//C|"⟩
    p.isEmpty = false ∧ ∃ file, create cwd p "yaml" = .ok file ∧
      file.key = "/w/C|/" ∧ file.uri = ⟨"file:///w/C|"⟩ ∧
      create .top file.path "yaml" = .ok file := by
  intro cwd p
  have hp : p.isEmpty = false := by decide
  have hnormal : (cwd.absolute p).normalize = ⟨"/w/C|"⟩ := by decide +kernel
  have huri : FileUri.ofPath .top ⟨"/w/C|"⟩ = .ok ⟨"file:///w/C|"⟩ := by decide +kernel
  obtain ⟨file, hfile, hkey, hlanguage, hdrive, -, hagain⟩ := create_stable cwd hp "yaml"
  rw [hnormal] at hdrive hagain
  have hpath : file.path = ⟨"/w/C|/"⟩ := hdrive ⟨"/w/".toList, 'C', '|', by decide +kernel⟩
  obtain ⟨hsame, -, -, hcreate⟩ := hagain .top
  refine ⟨hp, file, hfile, by rw [hkey, hpath], Except.ok.inj (hsame.symm.trans huri), ?_⟩
  rw [hcreate "yaml", ← hlanguage]

/-- The files that can be made. -/
inductive Built : InputFile → Prop where
  | create {cwd : WorkingDir} {p : Path} {language : String} {f : InputFile}
    (h : create cwd p language = .ok f) : Built f
  | withKey {f : InputFile} (h : Built f) (key : String) : Built (f.withKey key)
  | withLines {f : InputFile} (h : Built f) (lines : UInt32) : Built (f.withLines lines)

namespace Built

variable {f : InputFile}

theorem path_eq_and_isNormal (h : f.Built) : f.path = f.uri.toPath ∧ f.uri.IsNormal := by
  induction h with
  | @create cwd p language f h =>
    cases hu : FileUri.ofPath cwd p with
    | error e => simp [InputFile.create, hu, Except.map] at h
    | ok u =>
      rw [create_of_ofPath hu, Except.ok.injEq] at h
      rw [← h]
      exact ⟨rfl, FileUri.isNormal_of_ofPath hu⟩
  | withKey _ _ ih => exact ih
  | withLines _ _ ih => exact ih

theorem isAbsolute_path (h : f.Built) : f.path.isAbsolute = true := by
  rw [h.path_eq_and_isNormal.1]
  exact h.path_eq_and_isNormal.2.isAbsolute_toPath

theorem resolve_path (h : f.Built) (cwd : WorkingDir) (base : Path) :
    FileUri.resolve cwd base f.path.text = .ok f.uri := by
  rw [h.path_eq_and_isNormal.1]
  exact h.path_eq_and_isNormal.2.resolve_toPath cwd base

theorem path_ne_empty (h : f.Built) : f.path.text ≠ "" := by
  have he := Path.isEmpty_of_isAbsolute h.isAbsolute_path
  simpa [Path.isEmpty] using he

end Built

end InputFile

theorem Profile.getLast?_command (p : Profile) (settings : LintSettings) (extraArgs : List String)
    (f : InputFile) : (p.command settings extraArgs f).getLast? = some f.path.text := by
  rw [command, List.getLast?_append, List.getLast?_singleton]
  rfl

end PlaybookScan

/-! ## File sets -/

namespace PlaybookScan.FileSet

open Grouping

/-- The sets that come about by adding files. -/
inductive Built : FileSet → Prop where
  | empty (base : Path) : Built (.empty base)
  | add {s : FileSet} (h : Built s) {file : InputFile} (hf : file.Built) : Built (s.add file)

theorem map_uri_place (file : InputFile) (fs : List InputFile) :
    (place file fs).map InputFile.uri = addNew file.uri (fs.map InputFile.uri) := by
  induction fs with
  | nil => rfl
  | cons f fs ih =>
    by_cases h : f.uri = file.uri
    · simp [place, addNew, h]
    · rw [place, if_neg h, List.map_cons, ih]
      simp only [addNew, List.map_cons, List.mem_cons, Ne.symm h, false_or]
      split <;> rfl

theorem place_of_not_mem {file : InputFile} {fs : List InputFile}
    (h : file.uri ∉ fs.map InputFile.uri) : place file fs = fs ++ [file] := by
  induction fs with
  | nil => rfl
  | cons f fs ih =>
    rw [List.map_cons, List.mem_cons, not_or] at h
    rw [place, if_neg (Ne.symm h.1), ih h.2, List.cons_append]

theorem foldl_add_of_nodup {s : FileSet} {fs : List InputFile}
    (h : ((s.files ++ fs).map InputFile.uri).Nodup) :
    fs.foldl add s = ⟨s.baseDir, s.files ++ fs⟩ := by
  induction fs generalizing s with
  | nil => rw [List.append_nil, List.foldl_nil]
  | cons f fs ih =>
    have hfresh : f.uri ∉ s.files.map InputFile.uri := by
      rw [List.map_append, List.nodup_append] at h
      exact fun hm => h.2.2 _ hm _ (List.mem_map_of_mem List.mem_cons_self) rfl
    have hadd : s.add f = ⟨s.baseDir, s.files ++ [f]⟩ := by rw [add, place_of_not_mem hfresh]
    rw [List.append_cons] at h ⊢
    rw [List.foldl_cons, hadd, ih h]

theorem mem_place {file g : InputFile} {fs : List InputFile} (h : g ∈ place file fs) :
    g = file ∨ g ∈ fs := by
  induction fs with
  | nil => exact .inl (List.mem_singleton.1 h)
  | cons f fs ih =>
    rw [place] at h
    split at h <;> rcases List.mem_cons.1 h with rfl | h
    · exact .inl rfl
    · exact .inr (List.mem_cons_of_mem _ h)
    · exact .inr List.mem_cons_self
    · exact (ih h).imp_right (List.mem_cons_of_mem _)

/-- A file that has been added is found under its URI, and nothing else has changed. -/
theorem find?_add (s : FileSet) (file : InputFile) (uri : FileUri) :
    (s.add file).find? uri = if file.uri = uri then some file else s.find? uri := by
  unfold add find?
  induction s.files with
  | nil => by_cases hu : file.uri = uri <;> simp [place, hu]
  | cons f fs ih =>
    by_cases hf : f.uri = file.uri
    · by_cases hu : file.uri = uri <;> simp [place, hf, hu]
    · simp only [place, if_neg hf]
      by_cases hu : f.uri = uri
      · have hother : file.uri ≠ uri := hu ▸ Ne.symm hf
        simp [hu, hother]
      · simpa [hu] using ih

section
variable (s : FileSet) {cwd : WorkingDir} {relative : Path} (language : String)

theorem addRelative_of_error {e : HostError}
    (h : FileUri.ofPath cwd (s.baseDir.join relative) = .error e) :
    s.addRelative cwd relative language = (.error e, s) := by
  unfold addRelative
  rw [InputFile.create_of_error h]

theorem addRelative_of_ok {u : FileUri}
    (h : FileUri.ofPath cwd (s.baseDir.join relative) = .ok u) :
    s.addRelative cwd relative language =
      (.ok ⟨relative.text, u.toPath, u, language, none⟩,
        s.add ⟨relative.text, u.toPath, u, language, none⟩) := by
  unfold addRelative
  rw [InputFile.create_of_ofPath h]
  simp only [InputFile.withKey, find?_add, if_true]

end

namespace Built

variable {s : FileSet}

/-- **No two files of a set share a URI.** -/
theorem nodup_uris (h : s.Built) : (s.files.map InputFile.uri).Nodup := by
  induction h with
  | empty base => exact List.nodup_nil
  | add _ _ ih =>
    rw [FileSet.add, map_uri_place]
    exact nodup_addNew ih

theorem built_of_mem (h : s.Built) : ∀ file ∈ s.files, file.Built := by
  induction h with
  | empty base => exact fun _ hf => absurd hf List.not_mem_nil
  | add _ hf ih =>
    intro g hg
    rcases mem_place hg with rfl | hg
    · exact hf
    · exact ih g hg

theorem addRelative (h : s.Built) (cwd : WorkingDir) (relative : Path) (language : String) :
    (s.addRelative cwd relative language).2.Built := by
  cases hu : FileUri.ofPath cwd (s.baseDir.join relative) with
  | error e =>
    rw [addRelative_of_error s language hu]
    exact h
  | ok u =>
    rw [addRelative_of_ok s language hu]
    exact h.add ((InputFile.Built.create (InputFile.create_of_ofPath hu language)).withKey _)

end Built

theorem find?_eq_some_iff {s : FileSet} (h : (s.files.map InputFile.uri).Nodup) {uri : FileUri}
    {file : InputFile} : s.find? uri = some file ↔ file ∈ s.files ∧ file.uri = uri := by
  constructor
  · intro hf
    exact ⟨List.mem_of_find?_eq_some hf, by simpa using List.find?_some hf⟩
  · rintro ⟨hm, rfl⟩
    have hsome : (s.find? file.uri).isSome = true :=
      List.find?_isSome.2 ⟨file, hm, beq_self_eq_true _⟩
    obtain ⟨g, hg⟩ := Option.isSome_iff_exists.1 hsome
    have huri : g.uri = file.uri := by simpa using List.find?_some hg
    rw [hg, List.inj_on_of_nodup_map h (List.mem_of_find?_eq_some hg) hm huri]

theorem find?_eq_of_perm {s t : FileSet} (hs : s.Built) (h : s.files.Perm t.files) (uri : FileUri) :
    s.find? uri = t.find? uri := by
  have ht : (t.files.map InputFile.uri).Nodup := (h.map _).nodup_iff.1 hs.nodup_uris
  ext file
  rw [find?_eq_some_iff hs.nodup_uris, find?_eq_some_iff ht, h.mem_iff]

theorem mem_files_of_mem_ofLanguage {s : FileSet} {language : String} {file : InputFile}
    (h : file ∈ s.ofLanguage language) : file ∈ s.files :=
  List.mem_of_mem_filter h

theorem nodup_uris_ofLanguage {s : FileSet} (h : s.Built) (language : String) :
    ((s.ofLanguage language).map InputFile.uri).Nodup :=
  (List.filter_sublist.map InputFile.uri).nodup h.nodup_uris

end PlaybookScan.FileSet
