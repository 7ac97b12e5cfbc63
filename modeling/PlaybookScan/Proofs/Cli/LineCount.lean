import PlaybookScan.Issue
import PlaybookScan.Proofs.Cli.Collect
import PlaybookScan.Proofs.Text.Lines

/-!
# The lines of a collected file

A file that is collected knows how many lines there are in what was read at its path. The number is
bounded, but so is the number of a line: the host accepts an issue on a line just if there is such a
line (`Issue.exists_create_eq_ok_iff`, `Text.Lines.le_count_iff`). Every file that collecting finds
has been made in this way (`FileSet.exists_inputFile_of_mem_collect`).
-/

set_option autoImplicit false

namespace PlaybookScan

theorem Issue.exists_create_eq_ok_iff (rule : RuleKey) (file : InputFile) (line : UInt32) :
    (∃ issue, Issue.create rule file line = .ok issue) ↔ file.hasLine line = true := by
  unfold Issue.create
  split <;> simp [*]

theorem InputFile.hasLine_iff {file : InputFile} {n : UInt32} (h : file.lines = some n)
    (line : UInt32) : file.hasLine line = true ↔ line ≠ 0 ∧ line ≤ n := by
  simp [InputFile.hasLine, h]

namespace Collect

variable {disk : Disk} {cwd : WorkingDir}

theorem isEmpty_of_read {p : Path} {content : List UInt8}
    (h : disk.read cwd.path p = .ok content) : p.isEmpty = false := by
  cases hnode : disk.node cwd.path p with
  | error e => simp [Disk.read, hnode] at h
  | ok node => exact FileSet.isEmpty_of_node disk cwd hnode

theorem exists_inputFile_of_read (base : Path) {p : Path} {content : List UInt8}
    (h : disk.read cwd.path p = .ok content) :
    ∃ file, (inputFile disk cwd base p).value = .ok file ∧
      file.lines = some (Text.Lines.count content) := by
  have huri := FileUri.ofPath_of_not_isEmpty cwd (isEmpty_of_read h)
  exact ⟨_, value_inputFile_of_ok disk cwd base huri h, rfl⟩

theorem exists_read_of_inputFile {base p : Path} {file : InputFile}
    (h : (inputFile disk cwd base p).value = .ok file) :
    ∃ content, disk.read cwd.path p = .ok content := by
  cases hread : disk.read cwd.path p with
  | error e => simp [value_inputFile_of_error disk cwd base hread] at h
  | ok content => exact ⟨content, rfl⟩

theorem exists_inputFile_of_mem_addAll {s files : FileSet} {ps : List Path}
    (h : (addAll disk cwd s ps).value = .ok files) {file : InputFile} (hm : file ∈ files.files) :
    file ∈ s.files ∨ ∃ p ∈ ps, (inputFile disk cwd s.baseDir p).value = .ok file := by
  induction ps generalizing s with
  | nil =>
    obtain rfl := Except.ok.inj h
    exact .inl hm
  | cons p ps ih =>
    cases hp : (inputFile disk cwd s.baseDir p).value with
    | error e => simp [addAll, hp] at h
    | ok made =>
      rw [value_addAll_cons disk cwd hp] at h
      rcases ih h with hold | ⟨q, hq, hmade⟩
      · rcases FileSet.mem_place hold with rfl | hold
        · exact .inr ⟨p, List.mem_cons_self, hp⟩
        · exact .inl hold
      · exact .inr ⟨q, List.mem_cons_of_mem _ hq, hmade⟩

end Collect

namespace FileSet

open Collect

theorem exists_inputFile_of_mem_collect {disk : Disk} {cwd : WorkingDir} {base : Path}
    {files : FileSet} (h : (collect disk cwd base).value = .ok files) {file : InputFile}
    (hm : file ∈ files.files) : ∃ p, (inputFile disk cwd base p).value = .ok file := by
  have hadded : ∃ ps, (addAll disk cwd (.empty base) ps).value = .ok files := by
    unfold collect at h
    split at h
    · cases h
    · split at h
      · split at h
        · cases h
        · exact ⟨_, h⟩
      · cases h
  obtain ⟨ps, hadded⟩ := hadded
  rcases exists_inputFile_of_mem_addAll hadded hm with hold | ⟨p, -, hp⟩
  · cases hold
  · exact ⟨p, hp⟩

/-- **An issue is accepted on every line that there is, and on no other one.** That is so of every
file made of what can be read, and every collected file is one of those. -/
theorem collect_accepts_lines (disk : Disk) (cwd : WorkingDir) (base : Path) :
    (∀ content, (Text.Lines.count content).toNat =
      min (Text.Lines.read content).length 4294967295) ∧
    (∀ p content, disk.read cwd.path p = .ok content →
      ∃ file, (inputFile disk cwd base p).value = .ok file ∧
        ∀ rule line, (∃ issue, Issue.create rule file line = .ok issue) ↔
          1 ≤ line.toNat ∧ line.toNat ≤ (Text.Lines.read content).length) ∧
    ∀ files, (collect disk cwd base).value = .ok files → ∀ file ∈ files.files,
      ∃ p content, disk.read cwd.path p = .ok content ∧
        (inputFile disk cwd base p).value = .ok file := by
  refine ⟨Text.Lines.toNat_count, ?accepts, ?collected⟩
  case accepts =>
    intro p content hread
    obtain ⟨file, hfile, hlines⟩ := exists_inputFile_of_read base hread
    refine ⟨file, hfile, fun rule line => ?_⟩
    have hpos : line ≠ 0 ↔ 1 ≤ line.toNat := by
      rw [ne_eq, ← UInt32.toNat_inj, Nat.one_le_iff_ne_zero]
      rfl
    rw [Issue.exists_create_eq_ok_iff, InputFile.hasLine_iff hlines, hpos,
      Text.Lines.le_count_iff]
  case collected =>
    intro files hfiles file hm
    obtain ⟨p, hp⟩ := exists_inputFile_of_mem_collect hfiles hm
    obtain ⟨content, hread⟩ := exists_read_of_inputFile hp
    exact ⟨p, content, hread, hp⟩

end FileSet

end PlaybookScan
