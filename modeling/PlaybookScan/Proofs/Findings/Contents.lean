import PlaybookScan.Findings
import PlaybookScan.Proofs.Diagnostic.RoundTrip
import PlaybookScan.Proofs.FileUri
import PlaybookScan.Proofs.List.Grouping

/-!
# What the findings of a run hold

`Findings` keeps its findings in four containers. `Findings.Coherent` says how these belong
together, which every reachable state keeps (`Reachable.coherent`). Of a coherent state,
`Findings.groups` is all that matters: inserting a finding takes it in among the groups
(`groups_insert`), the other operations leave the groups or forget them. `Findings.Holds s ps` says
that these are the groups of the distinct pairs of `ps`, and lines that are registered add to `ps`
what they report (`located?`, `Holds.registerAll`).
-/

set_option autoImplicit false

namespace PlaybookScan

open Grouping

theorem Logged.value_foldlM {α β : Type} (f : β → α → Logged β) (as : List α) (b : β) :
    (as.foldlM f b).value = as.foldl (fun b a => (f b a).value) b := by
  induction as generalizing b with
  | nil => rfl
  | cons a as ih => rw [List.foldlM_cons, value_bind, ih, List.foldl_cons]

/-! ## The findings on one file -/

namespace FindingSet

/-- Both parts hold the same findings, each once. -/
structure Coherent (s : FindingSet) : Prop where
  nodup : s.ordered.toList.Nodup
  mem_seen : ∀ f, f ∈ s.seen ↔ f ∈ s.ordered.toList

theorem coherent_empty : empty.Coherent := ⟨List.nodup_nil, fun f => by simp [empty]⟩

namespace Coherent

variable {s : FindingSet} (h : s.Coherent)
include h

theorem toList_insert (f : Finding) :
    (s.insert f).2.ordered.toList = addNew f s.ordered.toList := by
  have hf := h.mem_seen f
  rw [Std.HashSet.mem_iff_contains] at hf
  unfold FindingSet.insert addNew
  by_cases hm : f ∈ s.ordered.toList
  · rw [if_pos (hf.2 hm), if_pos hm]
  · rw [if_neg (fun hc => hm (hf.1 hc)), if_neg hm, Array.toList_push]

theorem insert (f : Finding) : (s.insert f).2.Coherent where
  nodup := by
    rw [h.toList_insert]
    exact nodup_addNew h.nodup
  mem_seen g := by
    rw [h.toList_insert, mem_addNew, ← h.mem_seen g, FindingSet.insert]
    split
    · rename_i hf
      have hf : f ∈ s.seen := Std.HashSet.mem_iff_contains.2 hf
      exact ⟨.inr, fun hg => hg.elim (fun he => he ▸ hf) id⟩
    · rw [Std.HashSet.mem_insert, beq_iff_eq]
      exact or_congr_left eq_comm

end Coherent

end FindingSet

namespace Findings

/-! ## Coherent states -/

/-- The files with findings. -/
def uris (s : Findings) : List FileUri := s.files.toList.map Prod.fst

/-- The findings, file by file. -/
def groups (s : Findings) : List (FileUri × List Finding) :=
  s.files.toList.map fun (uri, set) => (uri, set.ordered.toList)

/-- The containers agree: the index gives each URI its only place, no file is without findings, and
no finding is on line 0. No file is scanned twice. -/
structure Coherent (s : Findings) : Prop where
  index : ∀ u, s.index[u]? = s.uris.idxOf? u
  nodup_uris : s.uris.Nodup
  sets : ∀ p ∈ s.files.toList, p.2.Coherent
  ne_nil : ∀ g ∈ s.groups, g.2 ≠ []
  line_ne_zero : ∀ g ∈ s.groups, ∀ f ∈ g.2, f.line ≠ 0
  nodup_scanned : (s.scanned.map InputFile.uri).Nodup

theorem map_fst_groups (s : Findings) : s.groups.map Prod.fst = s.uris := by
  simp [groups, uris, Function.comp_def]

theorem toList_eq_ungroup (s : Findings) : s.toList = ungroup s.groups := by
  rw [toList, ungroup, groups, List.flatMap_map]

theorem coherent_empty (base : Path) : (empty base).Coherent := by
  constructor <;> simp [empty, uris, groups]

/-! ## Inserting a finding -/

theorem insert_of_known {s : Findings} {u : FileUri} {i : Nat} {g : FileUri × FindingSet}
    (hi : s.index[u]? = some i) (hg : s.files[i]? = some g) (f : Finding) :
    s.insert u f = ((g.2.insert f).1,
      { s with files := s.files.setIfInBounds i (g.1, (g.2.insert f).2) }) := by
  simp [insert, locate, hi, hg]

theorem insert_of_fresh {s : Findings} {u : FileUri} (hi : s.index[u]? = none) (f : Finding) :
    s.insert u f = (true, { s with
      files := s.files.push (u, (FindingSet.empty.insert f).2)
      index := s.index.insert u s.files.size }) := by
  have hs (x y : FileUri × FindingSet) :
      (s.files.push x).setIfInBounds s.files.size y = s.files.push y := by
    rw [← Array.toList_inj]
    simp
  simp [insert, locate, hi, FindingSet.insert, FindingSet.empty, hs]

@[simp] theorem baseDir_insert (s : Findings) (u : FileUri) (f : Finding) :
    (s.insert u f).2.baseDir = s.baseDir := by
  unfold insert locate
  cases s.index[u]? with
  | some i =>
    dsimp only
    split <;> rfl
  | none => simp

@[simp] theorem scanned_insert (s : Findings) (u : FileUri) (f : Finding) :
    (s.insert u f).2.scanned = s.scanned := by
  unfold insert locate
  cases s.index[u]? with
  | some i =>
    dsimp only
    split <;> rfl
  | none => simp

theorem idxOf?_concat {us : List FileUri} {u : FileUri} (h : u ∉ us) (v : FileUri) :
    (us ++ [u]).idxOf? v = if u = v then some us.length else us.idxOf? v := by
  unfold List.idxOf?
  rw [List.findIdx?_append]
  by_cases hv : u = v
  · subst hv
    have hn : us.findIdx? (· == u) = none := List.idxOf?_eq_none_iff.2 h
    simp [hn]
  · simp [hv]

namespace Coherent

variable {s : Findings} (h : s.Coherent)
include h

theorem exists_file {u : FileUri} {i : Nat} (hi : s.index[u]? = some i) :
    ∃ set, s.files[i]? = some (u, set) ∧ (u, set) ∈ s.files.toList := by
  rw [h.index] at hi
  obtain ⟨hl, hu, -⟩ := List.idxOf?_eq_some_iff.1 hi
  simp only [uris, List.getElem_map, List.length_map, Array.length_toList] at hl hu
  rw [Array.getElem_toList] at hu
  rw [← hu]
  exact ⟨s.files[i].2, Array.getElem?_eq_getElem hl, Array.getElem_mem_toList hl⟩

/-- **An inserted finding is taken in among the groups.** -/
theorem groups_insert (u : FileUri) (f : Finding) :
    (s.insert u f).2.groups = add u f s.groups := by
  cases hi : s.index[u]? with
  | some i =>
    obtain ⟨set, hg, hm⟩ := h.exists_file hi
    have hidx : (s.groups.map Prod.fst).idxOf? u = some i := by rw [map_fst_groups, ← h.index, hi]
    have hgroup : s.groups[i]? = some (u, set.ordered.toList) := by simp [groups, hg]
    rw [insert_of_known hi hg, add_eq_set hidx hgroup]
    simp [groups, (h.sets _ hm).toList_insert]
  | none =>
    have hu : u ∉ s.uris := List.idxOf?_eq_none_iff.1 (h.index u ▸ hi)
    have hf : (FindingSet.empty.insert f).2.ordered.toList = [f] :=
      FindingSet.coherent_empty.toList_insert f
    rw [insert_of_fresh hi, add_of_not_mem (by rwa [map_fst_groups])]
    simp [groups, hf]

theorem uris_insert (u : FileUri) (f : Finding) : (s.insert u f).2.uris = addNew u s.uris := by
  rw [← map_fst_groups, h.groups_insert, map_fst_add, map_fst_groups]

theorem index_insert (u : FileUri) (f : Finding) (v : FileUri) :
    (s.insert u f).2.index[v]? = (addNew u s.uris).idxOf? v := by
  cases hi : s.index[u]? with
  | some i =>
    obtain ⟨set, hg, hm⟩ := h.exists_file hi
    have hu : u ∈ s.uris := List.mem_map_of_mem (f := Prod.fst) hm
    rw [insert_of_known hi hg, addNew, if_pos hu]
    exact h.index v
  | none =>
    have hu : u ∉ s.uris := List.idxOf?_eq_none_iff.1 (h.index u ▸ hi)
    rw [insert_of_fresh hi, addNew, if_neg hu, idxOf?_concat hu, Std.HashMap.getElem?_insert,
      h.index v]
    simp [uris]

theorem sets_insert (u : FileUri) (f : Finding) :
    ∀ p ∈ (s.insert u f).2.files.toList, p.2.Coherent := by
  intro p hp
  cases hi : s.index[u]? with
  | some i =>
    obtain ⟨set, hg, hm⟩ := h.exists_file hi
    rw [insert_of_known hi hg, Array.toList_setIfInBounds] at hp
    rcases List.mem_or_eq_of_mem_set hp with hp | rfl
    · exact h.sets p hp
    · exact (h.sets _ hm).insert f
  | none =>
    rw [insert_of_fresh hi, Array.toList_push] at hp
    rcases List.mem_append.1 hp with hp | hp
    · exact h.sets p hp
    · rw [List.mem_singleton.1 hp]
      exact FindingSet.coherent_empty.insert f

theorem insert (u : FileUri) {f : Finding} (hf : f.line ≠ 0) : (s.insert u f).2.Coherent where
  index v := by rw [h.index_insert, h.uris_insert]
  nodup_uris := by
    rw [h.uris_insert]
    exact nodup_addNew h.nodup_uris
  sets := h.sets_insert u f
  ne_nil g hg := by
    rw [h.groups_insert] at hg
    exact ne_nil_of_mem_add h.ne_nil hg
  line_ne_zero g hg b hb := by
    rw [h.groups_insert] at hg
    rcases mem_add hg hb with ⟨-, rfl⟩ | ⟨bs, hg, hb⟩
    · exact hf
    · exact h.line_ne_zero _ hg b hb
  nodup_scanned := by
    rw [scanned_insert]
    exact h.nodup_scanned

end Coherent

/-! ## The other operations -/

theorem map_uri_noteScanned (s : Findings) (file : InputFile) :
    (s.noteScanned file).scanned.map InputFile.uri =
      addNew file.uri (s.scanned.map InputFile.uri) := by
  have hs : s.isScanned file = true ↔ file.uri ∈ s.scanned.map InputFile.uri := by
    simp only [isScanned, InputFile.same, List.any_eq_true, beq_iff_eq, List.mem_map]
    exact exists_congr fun g => and_congr_right fun _ => eq_comm
  unfold noteScanned addNew
  split <;> rename_i h
  · rw [if_pos (hs.1 h)]
  · rw [if_neg (fun hm => h (hs.2 hm)), List.map_append]
    rfl

@[simp] theorem baseDir_noteScanned (s : Findings) (file : InputFile) :
    (s.noteScanned file).baseDir = s.baseDir := by
  unfold noteScanned
  split <;> rfl

@[simp] theorem groups_noteScanned (s : Findings) (file : InputFile) :
    (s.noteScanned file).groups = s.groups := by
  unfold noteScanned
  split <;> rfl

theorem Coherent.noteScanned {s : Findings} (h : s.Coherent) (file : InputFile) :
    (s.noteScanned file).Coherent := by
  have hn : ((s.noteScanned file).scanned.map InputFile.uri).Nodup := by
    rw [map_uri_noteScanned]
    exact nodup_addNew h.nodup_scanned
  unfold Findings.noteScanned at hn ⊢
  split
  · exact h
  · rename_i hs
    rw [if_neg hs] at hn
    exact { h with nodup_scanned := hn }

theorem Coherent.drain {s : Findings} (h : s.Coherent) : s.drain.2.Coherent where
  index u := by simp [Findings.drain, uris]
  nodup_uris := List.nodup_nil
  sets _ hp := by cases hp
  ne_nil _ hg := by cases hg
  line_ne_zero _ hg := by cases hg
  nodup_scanned := h.nodup_scanned

/-! ## Registering lines -/

/-- What a line reports, and the URI of the file that it names. Nothing is reported on line 0. -/
def located? (cwd : WorkingDir) (base : Path) (line : String) : Option (FileUri × Finding) := do
  let d ← Diagnostic.parse? line
  if d.finding.line = 0 then none
  else
    let uri ← (FileUri.resolve cwd base d.filename).toOption
    return (uri, d.finding)

theorem line_ne_zero_of_located? {cwd : WorkingDir} {base : Path} {line : String}
    {p : FileUri × Finding} (h : located? cwd base line = some p) : p.2.line ≠ 0 := by
  simp only [located?, Option.bind_eq_bind, Option.bind_eq_some_iff] at h
  obtain ⟨d, -, h⟩ := h
  split at h
  · cases h
  · obtain ⟨u, -, hp⟩ := Option.bind_eq_some_iff.1 h
    rwa [← Option.some.inj hp]

theorem value_register (cwd : WorkingDir) (s : Findings) (line : String) :
    (s.register cwd line).value = ((Diagnostic.parse? line).isSome,
      (located? cwd s.baseDir line).elim s fun p => (s.insert p.1 p.2).2) := by
  unfold register located?
  cases hd : Diagnostic.parse? line with
  | none => rfl
  | some d =>
    obtain ⟨u, hu⟩ := FileUri.exists_resolve_eq_ok cwd s.baseDir
      (Diagnostic.filename_ne_empty_of_parse? hd)
    simp only [hu, Except.toOption, Option.bind_eq_bind, Option.bind_some]
    split <;> rfl

/-- What becomes of a line: it is no diagnostic, or its finding is on line 0, or it is inserted. -/
theorem register_cases (cwd : WorkingDir) (s : Findings) (line : String) :
    (Diagnostic.parse? line = none ∧ s.register cwd line = ⟨[], false, s⟩) ∨
    ∃ d uri, Diagnostic.parse? line = some d ∧
      (s.register cwd line = ⟨[.lineZeroDropped uri d.finding.rule], true, s⟩ ∨
        s.register cwd line =
          ⟨[.registered d.layout (s.insert uri d.finding).1], true, (s.insert uri d.finding).2⟩) := by
  unfold register
  cases hd : Diagnostic.parse? line with
  | none => exact .inl ⟨rfl, rfl⟩
  | some d =>
    obtain ⟨u, hu⟩ := FileUri.exists_resolve_eq_ok cwd s.baseDir
      (Diagnostic.filename_ne_empty_of_parse? hd)
    refine .inr ⟨d, u, rfl, ?_⟩
    simp only [hu]
    split
    · exact .inl rfl
    · exact .inr rfl

theorem Coherent.register {s : Findings} (h : s.Coherent) (cwd : WorkingDir) (line : String) :
    (s.register cwd line).value.2.Coherent := by
  rw [value_register]
  cases hl : located? cwd s.baseDir line with
  | none => exact h
  | some p => exact h.insert p.1 (line_ne_zero_of_located? hl)

/-- The states that findings get into. -/
inductive Reachable : Findings → Prop where
  | empty (base : Path) : Reachable (.empty base)
  | noteScanned {s : Findings} (h : Reachable s) (file : InputFile) : Reachable (s.noteScanned file)
  | register {s : Findings} (h : Reachable s) (cwd : WorkingDir) (line : String) :
    Reachable (s.register cwd line).value.2
  | drain {s : Findings} (h : Reachable s) : Reachable s.drain.2

theorem Reachable.coherent {s : Findings} (h : s.Reachable) : s.Coherent := by
  induction h with
  | empty base => exact coherent_empty base
  | noteScanned _ file ih => exact ih.noteScanned file
  | register _ cwd line ih => exact ih.register cwd line
  | drain _ ih => exact ih.drain

/-! ## What has been taken in -/

/-- `s` holds the distinct ones of the pairs `ps`, file by file. -/
structure Holds (s : Findings) (ps : List (FileUri × Finding)) : Prop where
  coherent : s.Coherent
  groups_eq : s.groups = group ps.eraseDups

theorem holds_empty (base : Path) : (empty base).Holds [] := ⟨coherent_empty base, rfl⟩

namespace Holds

variable {s : Findings} {ps : List (FileUri × Finding)} (h : s.Holds ps)
include h

theorem toList_eq : s.toList = ungroup (group ps.eraseDups) := by
  rw [toList_eq_ungroup, h.groups_eq]

theorem noteScanned (file : InputFile) : (s.noteScanned file).Holds ps :=
  ⟨h.coherent.noteScanned file, by rw [groups_noteScanned, h.groups_eq]⟩

theorem insert {p : FileUri × Finding} (hp : p.2.line ≠ 0) :
    (s.insert p.1 p.2).2.Holds (ps ++ [p]) :=
  ⟨h.coherent.insert p.1 hp, by rw [h.coherent.groups_insert, h.groups_eq, add_group]⟩

theorem register (cwd : WorkingDir) (line : String) :
    (s.register cwd line).value.2.Holds (ps ++ (located? cwd s.baseDir line).toList) := by
  rw [value_register]
  cases hl : located? cwd s.baseDir line with
  | none => simpa using h
  | some p => exact h.insert (line_ne_zero_of_located? hl)

end Holds

@[simp] theorem baseDir_register (cwd : WorkingDir) (s : Findings) (line : String) :
    (s.register cwd line).value.2.baseDir = s.baseDir := by
  rw [value_register]
  cases located? cwd s.baseDir line <;> simp

theorem value_registerAll (cwd : WorkingDir) (s : Findings) (lines : List String) :
    (s.registerAll cwd lines).value.2 =
      lines.foldl (fun s line => (s.register cwd line).value.2) s := by
  rw [registerAll, Logged.value_foldlM]
  generalize 0 = n
  induction lines generalizing n s with
  | nil => rfl
  | cons line lines ih => exact ih _ _

@[simp] theorem baseDir_registerAll (cwd : WorkingDir) (s : Findings) (lines : List String) :
    (s.registerAll cwd lines).value.2.baseDir = s.baseDir := by
  rw [value_registerAll]
  induction lines generalizing s with
  | nil => rfl
  | cons line lines ih => rw [List.foldl_cons, ih, baseDir_register]

/-- **Lines that are registered add what they report.** -/
theorem Holds.registerAll {s : Findings} {ps : List (FileUri × Finding)} (h : s.Holds ps)
    (cwd : WorkingDir) (lines : List String) :
    (s.registerAll cwd lines).value.2.Holds (ps ++ lines.filterMap (located? cwd s.baseDir)) := by
  rw [value_registerAll]
  induction lines generalizing s ps with
  | nil => simpa using h
  | cons line lines ih =>
    have hr := ih (h.register cwd line)
    rw [baseDir_register] at hr
    rw [List.foldl_cons, List.filterMap_cons]
    cases hl : located? cwd s.baseDir line <;> simpa [hl] using hr

end Findings

end PlaybookScan
