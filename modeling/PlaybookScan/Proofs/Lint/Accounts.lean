import PlaybookScan.Proofs.Findings.Agreement
import PlaybookScan.Proofs.Lint.Runs
import PlaybookScan.Proofs.Log.Tally

/-!
# The log accounts for every line and every finding

An analysis logs what its runner logs and, between these events, what it logs by itself
(`events_outcomeOf_perm`). Two of its counters move as that log does, by a step of each loop and so
by the whole of it: the number of findings held, by the registrations of new ones
(`issueCount_absorbAll_quiet`), and the number of findings dropped, by the reasons for dropping them
(`dropped_saveAll`). `execute_accounts` puts them together.
-/

set_option autoImplicit false

namespace PlaybookScan

/-! ## Reading lines -/

namespace Findings

variable (cwd : WorkingDir) (s : Findings) (lines : List String)

theorem phase_registerAll : ∀ e ∈ (s.registerAll cwd lines).events, e.phase = .reading := by
  refine Logged.phase_foldlM (fun t line => ?_) lines (0, s)
  rcases register_cases cwd t.2 line with ⟨-, h⟩ | ⟨d, uri, -, h | h⟩ <;> simp [h, Event.phase]

theorem fst_registerAll : (s.registerAll cwd lines).value.1 =
    lines.countP fun line => (Diagnostic.parse? line).isSome := by
  refine (Logged.measure_foldlM_countP (m := Prod.fst) (fun t line => ?_) lines (0, s)).trans
    (Nat.zero_add _)
  rcases register_cases cwd t.2 line with ⟨hd, h⟩ | ⟨d, uri, hd, h | h⟩ <;> simp [h, hd]

theorem fst_registerAll_eq_tally :
    let log := (s.registerAll cwd lines).events
    (s.registerAll cwd lines).value.1 = tally .lineZero log + tally .registered log := by
  refine (Logged.measure_foldlM (t := fun log => tally .lineZero log + tally .registered log)
    (m := Prod.fst) rfl (fun log rest => ?_) (fun t line => ?_) lines (0, s)).trans (Nat.zero_add _)
  · simp only [tally_append]
    omega
  · rcases register_cases cwd t.2 line with ⟨-, h⟩ | ⟨d, uri, -, h | h⟩ <;> simp [h, Event.weight]

theorem issueCount_registerAll :
    (s.registerAll cwd lines).value.2.issueCount =
      s.issueCount + tally .inserted (s.registerAll cwd lines).events := by
  refine Logged.measure_foldlM (m := fun t : Nat × Findings => t.2.issueCount) rfl
    (tally_append .inserted) (fun t line => ?_) lines (0, s)
  rcases register_cases cwd t.2 line with ⟨-, h⟩ | ⟨d, uri, -, h | h⟩ <;>
    simp [h, Event.weight, issueCount_insert]

end Findings

/-! ## Runs, and what the runner logs -/

/-- The reply without what the runner has logged. -/
def Reply.quiet (r : Reply) : Reply := { r with events := [] }

def LintRun.quiet (run : LintRun) : LintRun := { run with reply := run.reply.quiet }

/-- What there is to count in a run: its file, its lines and those of them that are diagnostics. -/
def LintRun.account (run : LintRun) : String × Nat × Nat :=
  (run.file.key, run.reply.stdout.length,
    run.reply.stdout.countP fun line => (Diagnostic.parse? line).isSome)

namespace Analysis

variable {σ : Type} (cwd : WorkingDir)

/-- What is logged about a run when it has come to its end. -/
def logOf (p : Progress) (run : LintRun) : List Event :=
  let read := (p.findings.noteScanned run.file).registerAll cwd run.reply.stdout
  match run.reply.result with
  | .error e => [.cannotRun run.file.key e]
  | .ok output => .finished run.file.key output.exitCode :: read.events ++
    .parsed run.file.key output.stdout.length read.value.1 :: (p.relay.report output.stderr).events

theorem events_absorb (p : Progress) (run : LintRun) : (absorb cwd p run).events =
    .running run.file.key run.argv :: (run.reply.events ++ logOf cwd p run) := by
  unfold absorb logOf Reply.stdout
  cases run.reply.result with
  | error e => rfl
  | ok output => simp

theorem events_absorb_quiet (p : Progress) (run : LintRun) :
    (absorb cwd p run.quiet).events = .running run.file.key run.argv :: logOf cwd p run :=
  events_absorb cwd p run.quiet

theorem events_absorb_perm (p : Progress) (run : LintRun) :
    (absorb cwd p run).events.Perm ((absorb cwd p run.quiet).events ++ run.reply.events) := by
  rw [events_absorb, events_absorb_quiet, List.cons_append]
  exact List.perm_append_comm.cons _

theorem value_absorb_quiet (p : Progress) (run : LintRun) :
    (absorb cwd p run.quiet).value = (absorb cwd p run).value := by
  unfold absorb LintRun.quiet Reply.quiet
  cases run.reply.result <;> rfl

theorem value_absorbAll_quiet (p : Progress) (runs : List LintRun) :
    (absorbAll cwd p (runs.map LintRun.quiet)).value = (absorbAll cwd p runs).value := by
  rw [absorbAll, absorbAll, Logged.value_foldlM, Logged.value_foldlM, List.foldl_map]
  simp only [value_absorb_quiet]

/-- What the runner logs stands between what the analysis logs. -/
theorem events_absorbAll_perm (p : Progress) (runs : List LintRun) :
    (absorbAll cwd p runs).events.Perm
      ((absorbAll cwd p (runs.map LintRun.quiet)).events ++ runs.flatMap (·.reply.events)) := by
  unfold absorbAll
  induction runs generalizing p with
  | nil => exact .refl _
  | cons run runs ih =>
    simp only [List.foldlM_cons, List.map_cons, Logged.events_bind, List.flatMap_cons,
      value_absorb_quiet]
    refine List.perm_iff_count.2 fun e => ?_
    have hrun := (events_absorb_perm cwd p run).count_eq e
    have hruns := (ih (absorb cwd p run).value).count_eq e
    simp only [List.count_append] at hrun hruns ⊢
    omega

/-! ## What the analysis logs about runs -/

theorem phase_report (r : Relay) (lines : List String) :
    ∀ e ∈ (r.report lines).events, e.phase = .relaying := by
  unfold Relay.report
  simp only
  split <;> split <;> simp [Event.phase]

theorem tally_absorb_quiet (k : Counted) (p : Progress) (run : LintRun) :
    let read := (p.findings.noteScanned run.file).registerAll cwd run.reply.stdout
    tally k (absorb cwd p run.quiet).events =
      tally k read.events + if k = .recognised then read.value.1 else 0 := by
  intro read
  rw [events_absorb_quiet]
  simp only [logOf, read, Reply.stdout]
  cases run.reply.result with
  | error e => cases k <;> rfl
  | ok output =>
    have hrelay : tally k (p.relay.report output.stderr).events = 0 :=
      tally_eq_zero (phase_report _ _) (by cases k <;> decide)
    simp only [tally_cons, tally_append, hrelay]
    cases k <;> simp [Event.weight]

theorem filterMap_parsed?_absorb_quiet (p : Progress) (run : LintRun) :
    (absorb cwd p run.quiet).events.filterMap Event.parsed? =
      if run.reply.failed then [] else [run.account] := by
  rw [events_absorb_quiet]
  unfold logOf LintRun.account Reply.stdout Reply.failed
  cases run.reply.result with
  | error e => rfl
  | ok output =>
    have hread := filterMap_parsed?_eq_nil
      (Findings.phase_registerAll cwd (p.findings.noteScanned run.file) output.stdout) (by decide)
    have hrelay := filterMap_parsed?_eq_nil (phase_report p.relay output.stderr) (by decide)
    simp [List.filterMap_cons, Event.parsed?, Except.toBool, Findings.fst_registerAll, hread,
      hrelay]

theorem tally_recognised_absorb_quiet (p : Progress) (run : LintRun) :
    let log := (absorb cwd p run.quiet).events
    tally .recognised log = tally .lineZero log + tally .registered log := by
  have hread := Findings.fst_registerAll_eq_tally cwd (p.findings.noteScanned run.file)
    run.reply.stdout
  have hnone : tally .recognised
      ((p.findings.noteScanned run.file).registerAll cwd run.reply.stdout).events = 0 :=
    tally_eq_zero (Findings.phase_registerAll _ _ _) (by decide)
  simp only [tally_absorb_quiet, hnone]
  simpa using hread

theorem issueCount_absorb_quiet (p : Progress) (run : LintRun) :
    (absorb cwd p run.quiet).value.findings.issueCount =
      p.findings.issueCount + tally .inserted (absorb cwd p run.quiet).events := by
  have hnoted : (p.findings.noteScanned run.file).issueCount = p.findings.issueCount := by
    unfold Findings.noteScanned
    split <;> rfl
  rw [value_absorb_quiet, findings_absorb, Findings.issueCount_registerAll, hnoted,
    tally_absorb_quiet]
  simp

/-! ## All runs -/

theorem absorbAll_quiet (p : Progress) (runs : List LintRun) :
    absorbAll cwd p (runs.map LintRun.quiet) =
      runs.foldlM (fun p run => absorb cwd p run.quiet) p := by
  unfold absorbAll
  induction runs generalizing p with
  | nil => rfl
  | cons run runs ih =>
    rw [List.map_cons, List.foldlM_cons, List.foldlM_cons]
    exact congrArg _ (funext ih)

theorem filterMap_parsed?_absorbAll_quiet (p : Progress) (runs : List LintRun) :
    (absorbAll cwd p (runs.map LintRun.quiet)).events.filterMap Event.parsed? =
      (runs.filter fun run => !run.reply.failed).map LintRun.account := by
  rw [absorbAll_quiet]
  induction runs generalizing p with
  | nil => rfl
  | cons run runs ih =>
    rw [List.foldlM_cons, Logged.events_bind, List.filterMap_append, ih,
      filterMap_parsed?_absorb_quiet]
    by_cases h : run.reply.failed = true <;> simp [h]

theorem tally_recognised_absorbAll_quiet (p : Progress) (runs : List LintRun) :
    let log := (absorbAll cwd p (runs.map LintRun.quiet)).events
    tally .recognised log = tally .lineZero log + tally .registered log := by
  rw [absorbAll_quiet]
  refine Logged.events_foldlM
    (P := fun log => tally .recognised log = tally .lineZero log + tally .registered log) rfl
    (fun log rest hlog hrest => ?_) (tally_recognised_absorb_quiet cwd) runs p
  simp only [tally_append]
  omega

theorem issueCount_absorbAll_quiet (p : Progress) (runs : List LintRun) :
    (absorbAll cwd p runs).value.findings.issueCount = p.findings.issueCount +
      tally .inserted (absorbAll cwd p (runs.map LintRun.quiet)).events := by
  rw [← value_absorbAll_quiet, absorbAll_quiet]
  exact Logged.measure_foldlM (m := fun p : Progress => p.findings.issueCount) rfl
    (tally_append .inserted) (issueCount_absorb_quiet cwd) runs p

theorem tally_absorbAll_quiet_of_saving {k : Counted} (hk : k.phase = .saving) (p : Progress)
    (runs : List LintRun) : tally k (absorbAll cwd p (runs.map LintRun.quiet)).events = 0 := by
  rw [absorbAll_quiet]
  refine Logged.events_foldlM (P := fun log => tally k log = 0) rfl (fun log rest hlog hrest => ?_)
    (fun p run => ?_) runs p
  · rw [tally_append, hlog, hrest]
  · have hread : tally k
        ((p.findings.noteScanned run.file).registerAll cwd run.reply.stdout).events = 0 :=
      tally_eq_zero (Findings.phase_registerAll _ _ _) (by rw [hk]; decide)
    have hne : k ≠ .recognised := by
      rintro rfl
      cases hk
    simp [tally_absorb_quiet, hread, hne]

/-! ## Saving -/

theorem phase_saveAll (c : Context) (found : List (FileUri × Finding)) :
    ∀ e ∈ (saveAll c found).events, e.phase = .saving := by
  refine Logged.phase_foldlM (fun t p => ?_) found (0, 0, c)
  rcases saveFound_cases t.2.2 p.1 p.2 with
    ⟨issue, h⟩ | ⟨e, rfl | rfl | ⟨file, error, rfl⟩, h⟩ <;> simp [h, Event.phase]

/-- Findings are dropped for one of three reasons each. -/
theorem dropped_saveAll (c : Context) (found : List (FileUri × Finding)) :
    let log := (saveAll c found).events
    (saveAll c found).value.2.1 =
      tally .foreign log + tally .inactive log + tally .unsaved log := by
  refine (Logged.measure_foldlM
    (t := fun log => tally .foreign log + tally .inactive log + tally .unsaved log)
    (m := fun t : Nat × Nat × Context => t.2.1) rfl (fun log rest => ?_) (fun t p => ?_) found
    (0, 0, c)).trans (Nat.zero_add _)
  · simp only [tally_append]
    omega
  · rcases saveFound_cases t.2.2 p.1 p.2 with
      ⟨issue, h⟩ | ⟨e, rfl | rfl | ⟨file, error, rfl⟩, h⟩ <;> simp [h, Event.weight]

theorem saved_add_dropped_saveAll (c : Context) (found : List (FileUri × Finding)) :
    (saveAll c found).value.1 + (saveAll c found).value.2.1 = found.length := by
  refine (Logged.measure_foldlM_countP (p := fun _ => true)
    (m := fun t : Nat × Nat × Context => t.1 + t.2.1) (fun t p => ?_) found (0, 0, c)).trans ?_
  · rcases saveFound_cases t.2.2 p.1 p.2 with ⟨issue, h⟩ | ⟨e, -, h⟩ <;>
      simp [h, Nat.add_right_comm, Nat.add_assoc]
  · simp

/-! ## The whole log -/

theorem ofReply_quiet (r : Reply) : LintVersion.ofReply r =
    ⟨r.events ++ (LintVersion.ofReply r.quiet).events, (LintVersion.ofReply r.quiet).value⟩ :=
  rfl

theorem phase_ofReply_quiet (r : Reply) :
    ∀ e ∈ (LintVersion.ofReply r.quiet).events, e.phase = .asking := by
  unfold LintVersion.ofReply Reply.quiet
  cases r.result with
  | error e => simp [Event.phase]
  | ok output =>
    have hline : ∀ e ∈ (output.stdout.take 2).map Event.versionLine, e.phase = .asking :=
      List.forall_mem_map.2 fun _ _ => rfl
    simp only [Logged.events_bind, Logged.events_log, Logged.events_logAll, List.forall_mem_append]
    split <;> simpa [Event.phase] using hline

section
variable (c : Context)

/-- Where the runs of an analysis start from. -/
def startOf : Progress :=
  ⟨.empty c.files.baseDir, .start (LintSettings.ofSettings c.settings).disableWarnings⟩

/-- What the runs of an analysis have found. -/
def gathered (runs : List LintRun) : List (FileUri × Finding) :=
  (absorbAll cwd (startOf c) runs).value.findings.drain.1

/-- What an analysis logs by itself. -/
def ownLog (asked : Reply) (runs : List LintRun) : List Event :=
  (outcomeOf cwd c (LintVersion.ofReply asked.quiet) (runs.map LintRun.quiet)).events

variable (version : Logged (Option LintVersion)) (asked : Reply) (runs : List LintRun)

theorem events_outcomeOf :
    let report := (outcomeOf cwd c version runs).value.1
    (outcomeOf cwd c version runs).events =
      version.events ++ ((absorbAll cwd (startOf c) runs).events ++
        ((saveAll c (gathered cwd c runs)).events ++
          [.analysisFinished report.scanned.length report.saved report.dropped report.aborted])) :=
  rfl

theorem value_outcomeOf :
    let progress := (absorbAll cwd (startOf c) runs).value
    let saving := (saveAll c (gathered cwd c runs)).value
    (outcomeOf cwd c version runs).value =
      (⟨version.value, progress.findings.drain.2.scanned, saving.1, saving.2.1,
        runs.any (·.reply.failed)⟩, saving.2.2) :=
  rfl

theorem gathered_quiet : gathered cwd c (runs.map LintRun.quiet) = gathered cwd c runs := by
  rw [gathered, value_absorbAll_quiet]
  rfl

theorem length_gathered : (gathered cwd c runs).length =
    tally .inserted (absorbAll cwd (startOf c) (runs.map LintRun.quiet)).events := by
  have hcount := issueCount_absorbAll_quiet cwd (startOf c) runs
  rw [Findings.issueCount_eq_length] at hcount
  exact hcount.trans (Nat.zero_add _)

theorem value_outcomeOf_quiet :
    (outcomeOf cwd c (LintVersion.ofReply asked.quiet) (runs.map LintRun.quiet)).value =
      (outcomeOf cwd c (LintVersion.ofReply asked) runs).value := by
  have hany : (runs.map LintRun.quiet).any (·.reply.failed) = runs.any (·.reply.failed) :=
    List.any_map
  have hruns := value_absorbAll_quiet cwd (startOf c) runs
  rw [value_outcomeOf, value_outcomeOf, gathered_quiet, hany, hruns]
  rfl

theorem events_outcomeOf_perm :
    (outcomeOf cwd c (LintVersion.ofReply asked) runs).events.Perm
      (ownLog cwd c asked runs ++ (asked.events ++ runs.flatMap (·.reply.events))) := by
  have hruns := events_absorbAll_perm cwd (startOf c) runs
  rw [ownLog, events_outcomeOf, events_outcomeOf, value_outcomeOf_quiet, gathered_quiet,
    ofReply_quiet asked]
  refine List.perm_iff_count.2 fun e => ?_
  have hcount := hruns.count_eq e
  simp only [List.count_append] at hcount ⊢
  omega

theorem tally_ownLog (k : Counted) : tally k (ownLog cwd c asked runs) =
    tally k (absorbAll cwd (startOf c) (runs.map LintRun.quiet)).events +
      tally k (saveAll c (gathered cwd c runs)).events := by
  have hasking : tally k (LintVersion.ofReply asked.quiet).events = 0 :=
    tally_eq_zero (phase_ofReply_quiet asked) (by cases k <;> decide)
  have hend : ∀ scanned saved dropped aborted,
      tally k [.analysisFinished scanned saved dropped aborted] = 0 := by
    cases k <;> exact fun _ _ _ _ => rfl
  rw [ownLog, events_outcomeOf, gathered_quiet]
  simp only [tally_append, hasking, hend, Nat.zero_add, Nat.add_zero]

theorem filterMap_parsed?_ownLog : (ownLog cwd c asked runs).filterMap Event.parsed? =
    (runs.filter fun run => !run.reply.failed).map LintRun.account := by
  have hasking := filterMap_parsed?_eq_nil (phase_ofReply_quiet asked) (by decide)
  have hsaving := filterMap_parsed?_eq_nil (phase_saveAll c (gathered cwd c runs)) (by decide)
  rw [ownLog, events_outcomeOf, gathered_quiet]
  simp only [List.filterMap_append, hasking, hsaving, filterMap_parsed?_absorbAll_quiet]
  simp [Event.parsed?]

theorem tally_ownLog_of_not_saving {k : Counted} (hk : k.phase ≠ .saving) :
    tally k (ownLog cwd c asked runs) =
      tally k (absorbAll cwd (startOf c) (runs.map LintRun.quiet)).events := by
  have hsaving : tally k (saveAll c (gathered cwd c runs)).events = 0 :=
    tally_eq_zero (phase_saveAll _ _) hk.symm
  rw [tally_ownLog, hsaving, Nat.add_zero]

theorem tally_ownLog_of_saving {k : Counted} (hk : k.phase = .saving) :
    tally k (ownLog cwd c asked runs) = tally k (saveAll c (gathered cwd c runs)).events := by
  rw [tally_ownLog, tally_absorbAll_quiet_of_saving cwd hk, Nat.zero_add]

end

/-- **Nothing is lost without an event.** Besides the runner's events, every run that succeeded is
counted once; a diagnostic is on line 0 or registered, a finding registered as new is saved or
dropped, and one is dropped for one of three reasons. The last event says what the report says. -/
theorem execute_accounts (runner : Runner σ) (profile : Profile) (extraArgs : List String)
    (c : Context) (s : σ) :
    let execution := (execute runner profile extraArgs cwd c s).1
    let report := execution.value.1
    let asked := (probed runner c s).1
    let runs := runsOf runner profile extraArgs c s
    ∃ own : List Event,
      execution.events.Perm (own ++ (asked.events ++ runs.flatMap (·.reply.events))) ∧
      own.filterMap Event.parsed? =
        (runs.filter fun run => !run.reply.failed).map LintRun.account ∧
      tally .recognised own = tally .lineZero own + tally .registered own ∧
      tally .inserted own = report.saved + report.dropped ∧
      report.dropped = tally .foreign own + tally .inactive own + tally .unsaved own ∧
      execution.events.getLast? = some (.analysisFinished report.scanned.length report.saved
        report.dropped report.aborted) := by
  intro execution report asked runs
  have hexec : execution = outcomeOf cwd c (LintVersion.ofReply asked) runs := fst_execute ..
  have hreport : report.saved = (saveAll c (gathered cwd c runs)).value.1 ∧
      report.dropped = (saveAll c (gathered cwd c runs)).value.2.1 := by
    simp only [report, hexec, value_outcomeOf, and_self]
  refine ⟨ownLog cwd c asked runs, ?_, filterMap_parsed?_ownLog .., ?_, ?_, ?_, ?_⟩
  · rw [hexec]
    exact events_outcomeOf_perm ..
  · simp (disch := decide) only [tally_ownLog_of_not_saving]
    exact tally_recognised_absorbAll_quiet ..
  · rw [tally_ownLog_of_not_saving cwd c asked runs (by decide), hreport.1, hreport.2,
      saved_add_dropped_saveAll, length_gathered]
  · rw [hreport.2, dropped_saveAll]
    simp (disch := decide) only [tally_ownLog_of_saving]
  · simp only [report, hexec, events_outcomeOf, List.getLast?_append, List.getLast?_singleton,
      Option.some_or]

end Analysis

end PlaybookScan
