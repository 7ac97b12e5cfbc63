import PlaybookScan.Lint.Analysis
import PlaybookScan.Proofs.Findings.Contents

/-!
# What an analysis saves

What an analysis gives to the host is a function of the replies alone (`execute_saves`): the lines
printed before the first failure (`printed`), the findings that they report, each once and file by
file (`reported`), and of these the ones that the host accepts (`accept?`).

* `printed_runAll`: the runs that are made print these lines.
* `Progress.Took`, kept by every run (`Took.absorb`): the findings hold what has been printed.
* `value_saveAll`: saving appends the accepted findings to the issues and counts them.
-/

set_option autoImplicit false

namespace PlaybookScan

open Findings Grouping

/-- The lines that a run printed. A failed run has printed none. -/
def Reply.stdout (r : Reply) : List String :=
  match r.result with
  | .ok output => output.stdout
  | .error _ => []

namespace Analysis

variable {σ : Type}

/-! ## What is printed -/

/-- The replies to command lines that are run in turn, all of them. -/
def replies (runner : Runner σ) : List (List String) → σ → List Reply
  | [], _ => []
  | argv :: argvs, s =>
    let (reply, s) := runner.run argv s
    reply :: replies runner argvs s

/-- The lines printed before the first failure. -/
def printed (rs : List Reply) : List String :=
  (rs.takeWhile fun r => !r.failed).flatMap Reply.stdout

theorem stdout_of_failed {r : Reply} (h : r.failed = true) : r.stdout = [] := by
  unfold Reply.failed at h
  unfold Reply.stdout
  cases hr : r.result with
  | ok output => simp [hr, Except.toBool] at h
  | error e => rfl

theorem printed_runAll (runner : Runner σ) (command : InputFile → List String)
    (files : List InputFile) (s : σ) :
    (runAll runner command files s).1.flatMap (·.reply.stdout) =
      printed (replies runner (files.map command) s) := by
  induction files generalizing s with
  | nil => rfl
  | cons file files ih =>
    simp only [runAll, replies, List.map_cons, printed]
    by_cases h : (runner.run (command file) s).1.failed = true
    · rw [if_pos h, List.takeWhile_cons_of_neg (by simp [h])]
      simp [stdout_of_failed h]
    · rw [if_neg h, List.takeWhile_cons_of_pos (by simp [h])]
      simp only [List.flatMap_cons, ih, printed]

/-! ## What is found -/

/-- The findings that lines report, each once, file by file. -/
def reported (cwd : WorkingDir) (base : Path) (lines : List String) : List (FileUri × Finding) :=
  ungroup (group (lines.filterMap (located? cwd base)).eraseDups)

theorem line_ne_zero_of_reported {cwd : WorkingDir} {base : Path} {lines : List String}
    {p : FileUri × Finding} (h : p ∈ reported cwd base lines) : p.2.line ≠ 0 := by
  obtain ⟨line, -, hp⟩ := List.mem_filterMap.1 (List.mem_eraseDups.1 (mem_of_mem_ungroup h))
  exact line_ne_zero_of_located? hp

/-- What has been printed so far is held, seen from the base directory. -/
structure Progress.Took (cwd : WorkingDir) (base : Path) (p : Progress) (lines : List String) :
    Prop where
  baseDir : p.findings.baseDir = base
  holds : p.findings.Holds (lines.filterMap (located? cwd base))

theorem findings_absorb (cwd : WorkingDir) (p : Progress) (run : LintRun) :
    (absorb cwd p run).value.findings =
      ((p.findings.noteScanned run.file).registerAll cwd run.reply.stdout).value.2 := by
  unfold absorb Reply.stdout
  cases run.reply.result <;> rfl

namespace Progress.Took

variable {cwd : WorkingDir} {base : Path} {p : Progress} {lines : List String}

theorem start (cwd : WorkingDir) (base : Path) (relay : Relay) :
    Took cwd base ⟨.empty base, relay⟩ [] :=
  ⟨rfl, holds_empty base⟩

theorem absorb (h : Took cwd base p lines) (run : LintRun) :
    Took cwd base (Analysis.absorb cwd p run).value (lines ++ run.reply.stdout) where
  baseDir := by
    rw [findings_absorb, baseDir_registerAll, baseDir_noteScanned, h.baseDir]
  holds := by
    have hr := (h.holds.noteScanned run.file).registerAll cwd run.reply.stdout
    rwa [baseDir_noteScanned, h.baseDir, ← List.filterMap_append, ← findings_absorb] at hr

theorem absorbAll (h : Took cwd base p lines) (runs : List LintRun) :
    Took cwd base (Analysis.absorbAll cwd p runs).value
      (lines ++ runs.flatMap (·.reply.stdout)) := by
  rw [Analysis.absorbAll, Logged.value_foldlM]
  induction runs generalizing p lines with
  | nil => simpa using h
  | cons run runs ih =>
    rw [List.foldl_cons, List.flatMap_cons, ← List.append_assoc]
    exact ih (h.absorb run)

theorem drain_eq (h : Took cwd base p lines) : p.findings.drain.1 = reported cwd base lines :=
  h.holds.toList_eq

end Progress.Took

/-! ## What is saved -/

/-- The issue that the host makes of a finding: on one of its files, under an active rule, and on a
line of the file as far as its lines are known. -/
def accept? (c : Context) (p : FileUri × Finding) : Option Issue := do
  let file ← c.files.find? p.1
  let rule ← c.rules.resolve? p.2.rule
  if file.lines.all (p.2.line ≤ ·) then
    return ⟨rule, file.key, file.uri, p.2.line, p.2.message⟩
  else none

theorem accept?_eq_some_iff {c : Context} {p : FileUri × Finding} {issue : Issue} :
    accept? c p = some issue ↔ ∃ file rule, c.files.find? p.1 = some file ∧
      c.rules.resolve? p.2.rule = some rule ∧ file.lines.all (p.2.line ≤ ·) = true ∧
      issue = ⟨rule, file.key, file.uri, p.2.line, p.2.message⟩ := by
  unfold accept?
  simp only [Option.bind_eq_bind, Option.bind_eq_some_iff, Option.pure_def,
    Option.ite_none_right_eq_some, Option.some.injEq]
  constructor
  · rintro ⟨file, hfile, rule, hrule, hlines, rfl⟩
    exact ⟨file, rule, hfile, hrule, hlines, rfl⟩
  · rintro ⟨file, rule, hfile, hrule, hlines, rfl⟩
    exact ⟨file, hfile, rule, hrule, hlines, rfl⟩

theorem hasLine_of_ne_zero {line : UInt32} (h : line ≠ 0) (file : InputFile) :
    file.hasLine line = file.lines.all (line ≤ ·) := by
  simp [InputFile.hasLine, h]

theorem issueOf_eq (rule : RuleKey) (file : InputFile) (f : Finding) :
    issueOf rule file f =
      if file.hasLine f.line then .ok ⟨rule, file.key, file.uri, f.line, f.message⟩
      else .error (.lineOutOfRange file.key f.line (file.lines.getD 0)) := by
  unfold issueOf Issue.create
  split <;> rfl

theorem value_saveFound (c : Context) {p : FileUri × Finding} (hp : p.2.line ≠ 0) :
    (saveFound c p.1 p.2).value =
      match accept? c p with
      | some issue => (true, c.save issue)
      | none => (false, c) := by
  unfold saveFound accept?
  cases c.files.find? p.1 with
  | none => rfl
  | some file =>
    unfold saveFinding
    cases c.rules.resolve? p.2.rule with
    | none => rfl
    | some rule =>
      simp only [issueOf_eq, hasLine_of_ne_zero hp]
      by_cases hl : file.lines.all (p.2.line ≤ ·) = true
      · simp [hl]
      · simp [hl]

/-- A finding is saved on a line of its file, or the context stays and it is logged why. -/
theorem saveFinding_cases (c : Context) (file : InputFile) (f : Finding) :
    (∃ rule, file.hasLine f.line = true ∧ saveFinding c file f =
      ⟨[], true, c.save ⟨rule, file.key, file.uri, f.line, f.message⟩⟩) ∨
    ∃ e, (e = .inactiveRule f.rule ∨ ∃ error, e = .cannotSave file.key f.line error) ∧
      saveFinding c file f = ⟨[e], false, c⟩ := by
  unfold saveFinding
  cases c.rules.resolve? f.rule with
  | none => exact .inr ⟨_, .inl rfl, rfl⟩
  | some rule =>
    simp only [issueOf_eq]
    by_cases hline : file.hasLine f.line = true
    · refine .inl ⟨rule, hline, ?_⟩
      simp only [if_pos hline]
      rfl
    · refine .inr ⟨_, .inr ⟨.lineOutOfRange file.key f.line (file.lines.getD 0), rfl⟩, ?_⟩
      simp only [if_neg hline]
      rfl

theorem saveFound_cases (c : Context) (uri : FileUri) (f : Finding) :
    (∃ issue, saveFound c uri f = ⟨[], true, c.save issue⟩) ∨
    ∃ e, (e = .foreignFinding uri f ∨ e = .inactiveRule f.rule ∨
        ∃ file error, e = .cannotSave file f.line error) ∧
      saveFound c uri f = ⟨[e], false, c⟩ := by
  unfold saveFound
  cases c.files.find? uri with
  | none => exact .inr ⟨_, .inl rfl, rfl⟩
  | some file =>
    rcases saveFinding_cases c file f with ⟨rule, -, h⟩ | ⟨e, he | ⟨error, he⟩, h⟩
    · exact .inl ⟨_, h⟩
    · exact .inr ⟨e, .inr (.inl he), h⟩
    · exact .inr ⟨e, .inr (.inr ⟨file.key, error, he⟩), h⟩

/-- Counts and context after one finding more. -/
def saveOne (t : Nat × Nat × Context) (p : FileUri × Finding) : Nat × Nat × Context :=
  let r := (saveFound t.2.2 p.1 p.2).value
  if r.1 then (t.1 + 1, t.2.1, r.2) else (t.1, t.2.1 + 1, r.2)

theorem value_saveAll_eq_foldl (c : Context) (found : List (FileUri × Finding)) :
    (saveAll c found).value = found.foldl saveOne (0, 0, c) := by
  rw [saveAll, Logged.value_foldlM]
  rfl

/-- Whether a finding is accepted depends on nothing that saving changes. -/
theorem saveOne_eq (c : Context) {p : FileUri × Finding} (hp : p.2.line ≠ 0) (saved dropped : Nat)
    (is : List Issue) :
    saveOne (saved, dropped, { c with issues := is }) p =
      match accept? c p with
      | some issue => (saved + 1, dropped, { c with issues := is ++ [issue] })
      | none => (saved, dropped + 1, { c with issues := is }) := by
  have ha : accept? { c with issues := is } p = accept? c p := rfl
  rw [saveOne, value_saveFound _ hp, ha]
  cases accept? c p <;> rfl

theorem foldl_saveOne (c : Context) {found : List (FileUri × Finding)}
    (h : ∀ p ∈ found, p.2.line ≠ 0) (saved dropped : Nat) (is : List Issue) :
    found.foldl saveOne (saved, dropped, { c with issues := is }) =
      (saved + (found.filterMap (accept? c)).length,
        dropped + found.countP fun p => (accept? c p).isNone,
        { c with issues := is ++ found.filterMap (accept? c) }) := by
  induction found generalizing saved dropped is with
  | nil => simp
  | cons p found ih =>
    have ih := ih fun q hq => h q (List.mem_cons_of_mem _ hq)
    rw [List.foldl_cons, saveOne_eq c (h p List.mem_cons_self)]
    cases ha : accept? c p <;> simp [ih, ha, Nat.add_assoc, Nat.add_comm 1]

/-- **Saving appends the accepted findings and counts them**, and it counts the others. -/
theorem value_saveAll (c : Context) {found : List (FileUri × Finding)}
    (h : ∀ p ∈ found, p.2.line ≠ 0) :
    (saveAll c found).value = ((found.filterMap (accept? c)).length,
      found.countP fun p => (accept? c p).isNone,
      { c with issues := c.issues ++ found.filterMap (accept? c) }) := by
  rw [value_saveAll_eq_foldl]
  simpa using foldl_saveOne c h 0 0 c.issues

/-! ## The analysis -/

section
variable (runner : Runner σ) (profile : Profile) (extraArgs : List String) (cwd : WorkingDir)
  (c : Context) (s : σ)

/-- The runs that an analysis makes, after it has asked for the version. -/
def runsOf : List LintRun :=
  let settings := LintSettings.ofSettings c.settings
  (runAll runner (profile.command settings extraArgs) (c.files.ofLanguage profile.language)
    (runner.run (LintVersion.command settings.lintPath) s).2).1

/-- What the runs of an analysis leave. -/
def progressOf : Progress :=
  let settings := LintSettings.ofSettings c.settings
  let start : Progress := ⟨.empty c.files.baseDir, .start settings.disableWarnings⟩
  (absorbAll cwd start (runsOf runner profile extraArgs c s)).value

theorem value_execute :
    let progress := progressOf runner profile extraArgs cwd c s
    let (saved, dropped, c') := (saveAll c progress.findings.drain.1).value
    let outcome := (execute runner profile extraArgs cwd c s).1.value
    outcome.1.saved = saved ∧ outcome.1.dropped = dropped ∧ outcome.2 = c' :=
  ⟨rfl, rfl, rfl⟩

/-- **An analysis saves the findings that were printed before the first failure and that the host
accepts**, each once, file by file, behind the issues saved before; it changes nothing else and
counts what it saves and what it does not. -/
theorem execute_saves :
    let settings := LintSettings.ofSettings c.settings
    let commands := (c.files.ofLanguage profile.language).map (profile.command settings extraArgs)
    let probed := (runner.run (LintVersion.command settings.lintPath) s).2
    let found := reported cwd c.files.baseDir (printed (replies runner commands probed))
    let outcome := (execute runner profile extraArgs cwd c s).1.value
    outcome.2 = { c with issues := c.issues ++ found.filterMap (accept? c) } ∧
      outcome.1.saved = (found.filterMap (accept? c)).length ∧
      outcome.1.dropped = found.countP fun p => (accept? c p).isNone := by
  intro settings commands probed found outcome
  have took := (Progress.Took.start cwd c.files.baseDir (.start settings.disableWarnings)).absorbAll
    (runsOf runner profile extraArgs c s)
  rw [List.nil_append, runsOf, printed_runAll] at took
  have hfound : (progressOf runner profile extraArgs cwd c s).findings.drain.1 = found :=
    took.drain_eq
  have hline : ∀ p ∈ found, p.2.line ≠ 0 := fun p hp => line_ne_zero_of_reported hp
  have hsaved := value_saveAll c hline
  have hv := value_execute runner profile extraArgs cwd c s
  simp only [hfound, hsaved] at hv
  exact ⟨hv.2.2, hv.1, hv.2.1⟩

end

end Analysis

end PlaybookScan
