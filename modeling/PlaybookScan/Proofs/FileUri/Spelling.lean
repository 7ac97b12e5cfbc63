import PlaybookScan.Proofs.FileUri
import PlaybookScan.Proofs.Path.Normal

/-!
# Spellings of one file

A path that is not empty has the URI of its normal form (`ofPath_congr`). What the linter prints can
therefore be spelt in any way, and so can the base directory, as long as the normal forms are the
same (`join_respects_spelling`). The one exception is the empty name: from a base directory that is
spelt as nothing at all it names no file (`resolve_empty_name`).
-/

set_option autoImplicit false

namespace PlaybookScan.FileUri

open PlaybookScan.Path

theorem ofPath_congr (cwd : WorkingDir) {p q : Path} (hp : p.isEmpty = false)
    (hq : q.isEmpty = false) (h : p.normalize = q.normalize) :
    ∃ u, ofPath cwd p = .ok u ∧ ofPath cwd q = .ok u := by
  refine ⟨_, ofPath_of_not_isEmpty cwd hp, ?_⟩
  rw [ofPath_of_not_isEmpty cwd hq, WorkingDir.absolute, WorkingDir.absolute,
    normalize_join_congr rfl h]

/-- **Spellings of a base directory and of a file name.** The base may be normalised beforehand, and
spellings of base and name make no difference, unless nothing is left to name the file. A name that
stays below is put behind the base. -/
theorem join_respects_spelling (cwd : WorkingDir) (base base' file file' : Path) :
    (base.join file).normalize = (base.normalize.join file).normalize ∧
      (base.isAbsolute = true → file.isAbsolute = false → .up ∉ file.normalize.components →
        (base.join file).normalize.components =
          base.normalize.components ++ file.normalize.components) ∧
      (base.normalize = base'.normalize →
        file.isEmpty = false ∨ (base.isEmpty = false ∧ base'.isEmpty = false) →
        ∃ u, resolve cwd base file.text = .ok u ∧ resolve cwd base' file.text = .ok u) ∧
      (file.normalize = file'.normalize → file.isEmpty = false → file'.isEmpty = false →
        ∃ u, resolve cwd base file.text = .ok u ∧ resolve cwd base file'.text = .ok u) := by
  have hjoin {p q : Path} (h : q.isEmpty = false ∨ p.isEmpty = false) :
      (p.join q).isEmpty = false := by
    rw [isEmpty_join, Bool.and_eq_false_iff]
    exact h.symm
  refine ⟨normalize_join base file, fun _ => components_normalize_join base, ?bases, ?names⟩
  case bases =>
    intro hbase hne
    exact ofPath_congr cwd (hjoin (hne.imp_right And.left)) (hjoin (hne.imp_right And.right))
      (normalize_join_congr hbase rfl)
  case names =>
    intro hfile hne hne'
    exact ofPath_congr cwd (hjoin (.inl hne)) (hjoin (.inl hne')) (normalize_join_congr rfl hfile)

/-- Dots and doubled slashes on both sides, seen from a working directory of no importance. -/
theorem join_respects_spelling_dots :
    let cwd : WorkingDir := ⟨⟨"/w"⟩, rfl⟩
    let base : Path := ⟨"/../a/./b/.."⟩
    let base' : Path := ⟨"/a//"⟩
    let file : Path := ⟨"./x//y/../z.yml"⟩
    let file' : Path := ⟨"x/z.yml"⟩
    (base.isAbsolute = true ∧ file.isAbsolute = false ∧ .up ∉ file.normalize.components ∧
      base.normalize = base'.normalize ∧ file.normalize = file'.normalize) ∧
      (base.join file).normalize = ⟨"/a/x/z.yml"⟩ ∧
      (base.join file).normalize.components =
        base.normalize.components ++ file.normalize.components ∧
      (∃ u, resolve cwd base file.text = .ok u ∧ resolve cwd base' file.text = .ok u) ∧
      (∃ u, resolve cwd base file.text = .ok u ∧ resolve cwd base file'.text = .ok u) := by
  intro cwd base base' file file'
  have hbase : base.isAbsolute = true := by decide +kernel
  have hfile : file.isAbsolute = false := by decide +kernel
  have hup : .up ∉ file.normalize.components := by decide +kernel
  have hbases : base.normalize = base'.normalize := by decide +kernel
  have hfiles : file.normalize = file'.normalize := by decide +kernel
  have hne : file.isEmpty = false := by decide +kernel
  obtain ⟨-, hbelow, hspelt, hnamed⟩ := join_respects_spelling cwd base base' file file'
  exact ⟨⟨hbase, hfile, hup, hbases, hfiles⟩, by decide +kernel, hbelow hbase hfile hup,
    hspelt hbases (.inl hne), hnamed hfiles hne (by decide +kernel)⟩

/-- The empty name is that of a base directory spelt with a dot, but from one spelt as nothing,
whose normal form is the same, it names no file. -/
theorem resolve_empty_name :
    (⟨"."⟩ : Path).normalize = (⟨""⟩ : Path).normalize ∧
      resolve .top ⟨"."⟩ "" = .ok ⟨"file:///"⟩ ∧
      resolve .top ⟨""⟩ "" = .error (.invalidPath ⟨""⟩) := by
  decide +kernel

end PlaybookScan.FileUri
