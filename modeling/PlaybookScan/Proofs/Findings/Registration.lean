import PlaybookScan.Proofs.Findings.Agreement

/-!
# What a registered line changes

A line that is a diagnostic is always recognised, since its file name is not empty and so has a URI
(`register_answers`). It changes the findings only if it reports something that is not stored yet
(`Coherent.register_eq_self_iff`), which is stored then besides what was stored before
(`Coherent.stores_register`). The findings on a file come from the lines about this file alone, in
the order in which they were first reported (`issuesFor_registerAll`).
-/

set_option autoImplicit false

namespace PlaybookScan

open Grouping

theorem FindingSet.Coherent.insert_eq_self {s : FindingSet} (h : s.Coherent) {f : Finding}
    (hf : f ∈ s.ordered.toList) : s.insert f = (false, s) := by
  rw [FindingSet.insert, if_pos (Std.HashSet.mem_iff_contains.1 ((h.mem_seen f).2 hf))]

namespace Findings

/-! ## Stored findings -/

/-- The finding is one of those on the file `uri`. -/
def Stores (s : Findings) (uri : FileUri) (f : Finding) : Prop :=
  ∃ fs, s.issuesFor uri = some fs ∧ f ∈ fs

namespace Coherent

variable {s : Findings} (h : s.Coherent)
include h

theorem stores_iff (uri : FileUri) (f : Finding) : s.Stores uri f ↔ (uri, f) ∈ s.toList := by
  rw [Stores, h.issuesFor_eq_values, ← mem_values]
  constructor
  · rintro ⟨fs, hfs, hf⟩
    split at hfs
    · cases hfs
    · rwa [Option.some.inj hfs]
  · intro hf
    exact ⟨_, if_neg (List.ne_nil_of_mem hf), hf⟩

theorem stores_insert (u : FileUri) {f : Finding} (hf : f.line ≠ 0) (v : FileUri) (g : Finding) :
    (s.insert u f).2.Stores v g ↔ (v, g) = (u, f) ∨ s.Stores v g := by
  rw [(h.insert u hf).stores_iff, h.stores_iff, toList_eq_ungroup, toList_eq_ungroup,
    h.groups_insert, mem_ungroup_add]

theorem insert_eq_self {u : FileUri} {f : Finding} (hf : s.Stores u f) :
    (s.insert u f).2 = s := by
  obtain ⟨fs, hfs, hf⟩ := hf
  simp only [issuesFor, Option.bind_eq_bind, Option.bind_eq_some_iff] at hfs
  obtain ⟨i, hi, ⟨v, set⟩, hg, hset⟩ := hfs
  obtain ⟨set', hg', hm⟩ := h.exists_file hi
  obtain ⟨rfl, rfl⟩ := Prod.mk.inj (Option.some.inj (hg'.symm.trans hg))
  obtain rfl := Option.some.inj hset
  -- the index leads to the findings on the file, which are put back as they were
  obtain ⟨hlt, hget⟩ := Array.getElem?_eq_some_iff.1 hg
  have hfiles : s.files.setIfInBounds i (u, set') = s.files := by
    rw [Array.setIfInBounds_def, dif_pos hlt, ← hget, Array.set_getElem_self]
  rw [insert_of_known hi hg, (h.sets _ hm).insert_eq_self hf, hfiles]

/-! ## Registering a line -/

theorem stores_register (cwd : WorkingDir) (line : String) (u : FileUri) (f : Finding) :
    (s.register cwd line).value.2.Stores u f ↔
      located? cwd s.baseDir line = some (u, f) ∨ s.Stores u f := by
  rw [value_register]
  cases hl : located? cwd s.baseDir line with
  | none => simp
  | some p =>
    rw [Option.elim_some, h.stores_insert p.1 (line_ne_zero_of_located? hl), Option.some.injEq,
      eq_comm]

/-- **A line changes nothing if and only if** it reports nothing, or nothing new. -/
theorem register_eq_self_iff (cwd : WorkingDir) (line : String) :
    (s.register cwd line).value.2 = s ↔
      ∀ p, located? cwd s.baseDir line = some p → s.Stores p.1 p.2 := by
  constructor
  · intro hsame p hp
    rw [← hsame, h.stores_register]
    exact .inl hp
  · intro hstored
    rw [value_register]
    cases hl : located? cwd s.baseDir line with
    | none => rfl
    | some p => exact h.insert_eq_self (hstored p hl)

theorem registerAll (cwd : WorkingDir) (lines : List String) :
    (s.registerAll cwd lines).value.2.Coherent := by
  rw [value_registerAll]
  induction lines generalizing s with
  | nil => exact h
  | cons line lines ih => exact ih (h.register cwd line)

theorem stores_registerAll (cwd : WorkingDir) (lines : List String) (u : FileUri) (f : Finding) :
    (s.registerAll cwd lines).value.2.Stores u f ↔
      (∃ line ∈ lines, located? cwd s.baseDir line = some (u, f)) ∨ s.Stores u f := by
  rw [value_registerAll]
  induction lines generalizing s with
  | nil => simp
  | cons line lines ih =>
    rw [List.foldl_cons, ih (h.register cwd line), h.stores_register, baseDir_register,
      List.exists_mem_cons_iff, or_assoc]
    exact or_left_comm

theorem registerAll_eq_self {cwd : WorkingDir} {lines : List String}
    (hl : ∀ line ∈ lines, ∀ p, located? cwd s.baseDir line = some p → s.Stores p.1 p.2) :
    (s.registerAll cwd lines).value.2 = s := by
  rw [value_registerAll]
  induction lines with
  | nil => rfl
  | cons line lines ih =>
    obtain ⟨hline, hl⟩ := List.forall_mem_cons.1 hl
    rw [List.foldl_cons, (h.register_eq_self_iff cwd line).2 hline]
    exact ih hl

theorem registerAll_again {cwd : WorkingDir} {lines again : List String} (hsub : again ⊆ lines) :
    ((s.registerAll cwd lines).value.2.registerAll cwd again).value.2 =
      (s.registerAll cwd lines).value.2 := by
  refine (h.registerAll cwd lines).registerAll_eq_self fun line hline p hp => ?_
  rw [baseDir_registerAll] at hp
  exact (h.stores_registerAll cwd lines p.1 p.2).2 (.inl ⟨line, hsub hline, hp⟩)

end Coherent

theorem exists_located?_iff {cwd : WorkingDir} {base : Path} {line : String} {d : Diagnostic}
    {uri : FileUri} (hd : Diagnostic.parse? line = some d)
    (hu : FileUri.resolve cwd base d.filename = .ok uri) (p : FileUri × Finding) :
    located? cwd base line = some p ↔ d.finding.line ≠ 0 ∧ p = (uri, d.finding) := by
  simp [located?, hd, hu, Except.toOption, eq_comm]

/-- **A diagnostic is always recognised**, since every file name that is read is resolved. The
findings stay as they are exactly when the line is no diagnostic, or its finding is on line 0 or
stored already. -/
theorem register_answers {s : Findings} (hs : s.Reachable) (cwd : WorkingDir) (line : String) :
    (∀ p : Path, p.text ≠ "" → ∃ uri, FileUri.ofPath cwd p = .ok uri) ∧
      (∀ d, Diagnostic.parse? line = some d →
        d.filename ≠ "" ∧ ∃ uri, FileUri.resolve cwd s.baseDir d.filename = .ok uri) ∧
      (∀ filename e, .unresolvable filename e ∉ (s.register cwd line).events) ∧
      ((s.register cwd line).value.1 = true ↔ ∃ d, Diagnostic.parse? line = some d) ∧
      ((s.register cwd line).value.2 = s ↔
        (s.register cwd line).value.1 = false ∨
          ∃ d uri, Diagnostic.parse? line = some d ∧
            FileUri.resolve cwd s.baseDir d.filename = .ok uri ∧
            (d.finding.line = 0 ∨ s.Stores uri d.finding)) := by
  have hresolve {d : Diagnostic} (hd : Diagnostic.parse? line = some d) :
      ∃ uri, FileUri.resolve cwd s.baseDir d.filename = .ok uri :=
    FileUri.exists_resolve_eq_ok cwd s.baseDir (Diagnostic.filename_ne_empty_of_parse? hd)
  have hanswer : (s.register cwd line).value.1 = (Diagnostic.parse? line).isSome := by
    rw [value_register]
  refine ⟨fun p hp => ⟨_, FileUri.ofPath_of_not_isEmpty cwd (by simpa [Path.isEmpty] using hp)⟩,
    fun d hd => ⟨Diagnostic.filename_ne_empty_of_parse? hd, hresolve hd⟩, ?events, ?answer, ?same⟩
  case events =>
    intro filename e
    rcases register_cases cwd s line with ⟨-, h⟩ | ⟨d, uri, -, h | h⟩ <;> simp [h]
  case answer => rw [hanswer, Option.isSome_iff_exists]
  case same =>
    rw [hs.coherent.register_eq_self_iff, hanswer]
    cases hd : Diagnostic.parse? line with
    | none => simp [located?, hd]
    | some d =>
      obtain ⟨uri, hu⟩ := hresolve hd
      simp only [exists_located?_iff hd hu, Option.isSome_some, Bool.true_eq_false, false_or]
      constructor
      · exact fun h =>
          ⟨d, uri, rfl, hu, or_iff_not_imp_left.2 fun h0 => h (uri, d.finding) ⟨h0, rfl⟩⟩
      · rintro ⟨d', uri', hd', hu', h⟩ p ⟨h0, rfl⟩
        cases hd'
        cases hu.symm.trans hu'
        exact h.resolve_left h0

/-- A finding is printed again in another layout, and there is no base directory. -/
theorem register_answers_repeated :
    let s := ((empty ⟨""⟩).register .top "a.yml:3: no-tabs").value.2
    let again := s.register .top "no-tabs ./a.yml:03"
    s.Reachable ∧ again.value.1 = true ∧ again.value.2 = s := by
  intro s again
  have hs : s.Reachable := (Reachable.empty _).register .top _
  have hbase : s.baseDir = ⟨""⟩ := baseDir_register ..
  have hd : Diagnostic.parse? "no-tabs ./a.yml:03" =
    some ⟨"./a.yml", ⟨3, "no-tabs", none⟩, .rulePrefix⟩ := by decide
  have hu : FileUri.resolve .top s.baseDir "./a.yml" = .ok ⟨"file:///a.yml"⟩ := by
    rw [hbase]
    decide +kernel
  have hstored : s.Stores ⟨"file:///a.yml"⟩ ⟨3, "no-tabs", none⟩ :=
    ((coherent_empty ⟨""⟩).stores_register .top _ _ _).2 (.inl (by decide +kernel))
  obtain ⟨-, -, -, hanswer, hsame⟩ := register_answers hs .top "no-tabs ./a.yml:03"
  exact ⟨hs, hanswer.2 ⟨_, hd⟩, hsame.2 (.inr ⟨_, _, hd, hu, .inr hstored⟩)⟩

/-! ## The findings on one file -/

/-- The line is about the file `uri`. -/
def isAbout (cwd : WorkingDir) (base : Path) (uri : FileUri) (line : String) : Bool :=
  (Diagnostic.parse? line).any fun d => FileUri.resolve cwd base d.filename = .ok uri

/-- What a line says about the file `uri`, on a line of this file. -/
def findingOn? (cwd : WorkingDir) (base : Path) (uri : FileUri) (line : String) :
    Option Finding := do
  let d ← Diagnostic.parse? line
  if FileUri.resolve cwd base d.filename = .ok uri ∧ 1 ≤ d.finding.line then some d.finding
  else none

section
variable (cwd : WorkingDir) (base : Path) (uri : FileUri)

theorem findingOn?_of_not_isAbout {line : String} (h : isAbout cwd base uri line = false) :
    findingOn? cwd base uri line = none := by
  unfold isAbout at h
  unfold findingOn?
  cases hd : Diagnostic.parse? line with
  | none => rfl
  | some d =>
    have hu : ¬ FileUri.resolve cwd base d.filename = .ok uri := by simpa [hd] using h
    exact if_neg fun hc => hu hc.1

theorem filterMap_findingOn?_filter (lines : List String) :
    (lines.filter (isAbout cwd base uri)).filterMap (findingOn? cwd base uri) =
      lines.filterMap (findingOn? cwd base uri) := by
  rw [List.filterMap_filter]
  refine List.filterMap_congr fun line _ => ?_
  split
  · rfl
  · rename_i h
    exact (findingOn?_of_not_isAbout cwd base uri (Bool.eq_false_iff.2 h)).symm

theorem values_located? (lines : List String) :
    values (lines.filterMap (located? cwd base)) uri =
      lines.filterMap (findingOn? cwd base uri) := by
  rw [values, List.filterMap_filterMap]
  refine List.filterMap_congr fun line _ => ?_
  unfold located? findingOn?
  cases Diagnostic.parse? line with
  | none => rfl
  | some d =>
    have hline : 1 ≤ d.finding.line ↔ d.finding.line ≠ 0 := by grind
    simp only [Option.bind_eq_bind, Option.bind_some, hline]
    cases FileUri.resolve cwd base d.filename <;> by_cases h0 : d.finding.line = 0 <;>
      simp [h0, Except.toOption]

end

theorem Holds.issuesFor_eq {s : Findings} {ps : List (FileUri × Finding)} (h : s.Holds ps)
    (uri : FileUri) :
    s.issuesFor uri =
      if (values ps uri).eraseDups = [] then none else some (values ps uri).eraseDups := by
  rw [h.coherent.issuesFor_eq_values, h.toList_eq, values_ungroup_group, values_eraseDups]

/-- **The findings on a file come from the lines about it**, each once and in the order in which it
was first reported, but for line 0; there is no entry for a file without findings. So other lines
can come, go and move, and registering lines again changes nothing. -/
theorem issuesFor_registerAll (cwd : WorkingDir) (base : Path) (lines : List String)
    (uri : FileUri) :
    let after (lines : List String) : Findings := ((empty base).registerAll cwd lines).value.2
    let found := (lines.filterMap (findingOn? cwd base uri)).eraseDups
    (after lines).issuesFor uri = (if found = [] then none else some found) ∧
      (∀ lines', lines'.filter (isAbout cwd base uri) = lines.filter (isAbout cwd base uri) →
        (after lines').issuesFor uri = (after lines).issuesFor uri) ∧
      ∀ s : Findings, s.Reachable → ∀ again ⊆ lines,
        ((s.registerAll cwd lines).value.2.registerAll cwd again).value.2 =
          (s.registerAll cwd lines).value.2 := by
  intro after found
  have hissues (lines : List String) : (after lines).issuesFor uri =
      if (lines.filterMap (findingOn? cwd base uri)).eraseDups = [] then none
      else some (lines.filterMap (findingOn? cwd base uri)).eraseDups := by
    have hholds : (after lines).Holds (lines.filterMap (located? cwd base)) :=
      (holds_empty base).registerAll cwd lines
    rw [hholds.issuesFor_eq, values_located?]
  refine ⟨hissues lines, fun lines' hsame => ?_, fun s hs again hsub => ?_⟩
  · rw [hissues, hissues, ← filterMap_findingOn?_filter, hsame, filterMap_findingOn?_filter]
  · exact hs.coherent.registerAll_again hsub

/-- Lines about two files, one of them on line 0, and a line that is no diagnostic. -/
theorem issuesFor_registerAll_mixed :
    let lines := ["b.yml:1: r", "a.yml:3: no-tabs", "r ./x/../a.yml:07", "done", "no-tabs a.yml:3",
      "a.yml:0: r"]
    let lines' := ["a.yml:3: no-tabs", "r ./x/../a.yml:07", "no-tabs a.yml:3", "r b.yml:2",
      "a.yml:0: r", "b.yml:1: r"]
    let after (lines : List String) := ((empty ⟨"/p"⟩).registerAll .top lines).value.2
    let s := ((empty ⟨"q"⟩).register .top "r c.yml:9").value.2
    (after lines).issuesFor ⟨"file:///p/a.yml"⟩ =
        some [⟨3, "no-tabs", none⟩, ⟨7, "r", none⟩] ∧
      (after lines').issuesFor ⟨"file:///p/a.yml"⟩ =
        (after lines).issuesFor ⟨"file:///p/a.yml"⟩ ∧
      ((s.registerAll .top lines).value.2.registerAll .top lines).value.2 =
        (s.registerAll .top lines).value.2 := by
  intro lines lines' after s
  have hs : s.Reachable := (Reachable.empty _).register .top _
  obtain ⟨hfound, hothers, hagain⟩ :=
    issuesFor_registerAll .top ⟨"/p"⟩ lines ⟨"file:///p/a.yml"⟩
  exact ⟨hfound.trans (by decide +kernel), hothers lines' (by decide +kernel),
    hagain s hs lines (List.Subset.refl _)⟩

end Findings

end PlaybookScan
