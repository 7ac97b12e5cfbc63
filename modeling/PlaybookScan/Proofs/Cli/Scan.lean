import PlaybookScan.Cli.Scan
import PlaybookScan.Proofs.Cli.Collect
import PlaybookScan.Proofs.Cli.Sink
import PlaybookScan.Proofs.Lint.Runs

/-!
# How the program ends

`Scan.invoke_ends` says with which code the program ends, what it has written and which command
lines it has run, for any arguments, any disk, and any runner in the place of the linter. A scan is
taken phase by phase: without files (`perform_of_error`) and with them (`perform_of_ok`,
`execute_context`), what is written of an analysis (`report_of_accepts`), and what becomes of it at
the end (`invoke_of_misused`, `invoke_of_collected`).
-/

set_option autoImplicit false

namespace PlaybookScan

open Text

namespace Scan

variable {σ : Type}

/-- No scan begins: arguments or log filter are malformed, or the base is no directory. -/
inductive Misused (disk : Disk) (cwd : WorkingDir) (args : List String) : Prop where
  | arguments {e : UsageError} (h : Options.parse args = .error (.error e))
  | filter {o : Options} {reason : Log.FilterError} (ho : Options.parse args = .ok o)
    (h : Log.Filter.parse o.logFilter = .error reason)
  | baseDir {o : Options} (ho : Options.parse args = .ok o)
    (h : disk.isDirectory cwd.path o.baseDir = false)

/-! ## Phases -/

theorem complaint_aborted (scanned total : Nat) :
    complaint (.aborted scanned total) =
      programName ++ ": analysis stopped after " ++ toString scanned ++ " of " ++ toString total ++
        " files\n" := by
  -- The numbers stand for any texts here, so that nothing evaluates them.
  have hline (name count count' : String) :
      name ++ ": " ++ ("analysis stopped after " ++ count ++ " of " ++ count' ++ " files") ++ "\n" =
        name ++ ": analysis stopped after " ++ count ++ " of " ++ count' ++ " files\n" :=
    String.toList_injective (by simp)
  exact hline programName (toString scanned) (toString total)

theorem report_of_accepts (total : Nat) {output : Sink} (r : Report) {c : Context}
    (h : output.Accepts (Utf8.encode (Issue.lines c.issues)).length) :
    (report total output r c).value =
      ⟨if r.aborted then .error (.aborted r.scanned.length total) else .ok (),
        output.taking (Utf8.encode (Issue.lines c.issues))⟩ := by
  rw [report, Sink.writeIssues_of_accepts h]
  simp only [Logged.value_bind]
  split <;> rfl

section
variable (runner : Runner σ) (disk : Disk) (cwd : WorkingDir) (o : Options) (output : Sink) (s : σ)

theorem perform_of_error {e : ScanError}
    (h : (FileSet.collect disk cwd o.baseDir).value = .error e) :
    (perform runner disk cwd o output s).1.value = ⟨.error e, output⟩ ∧
      (perform runner disk cwd o output s).2 = s := by
  constructor <;> simp only [perform, Logged.value_bind, h]
  rfl

theorem perform_of_ok {files : FileSet}
    (h : (FileSet.collect disk cwd o.baseDir).value = .ok files) :
    let outcome := Analysis.execute runner .ansible o.lintArgs cwd (context o files) s
    (perform runner disk cwd o output s).1.value =
        (report files.size output outcome.1.value.1 outcome.1.value.2).value ∧
      (perform runner disk cwd o output s).2 = outcome.2 := by
  constructor <;> simp only [perform, Logged.value_bind, h]

end

/-! ## The analysis of the collected files -/

section
variable (runner : Runner σ) (cwd : WorkingDir) (o : Options) {files : FileSet}
  (hfiles : files.Built) (s : σ)
include hfiles

/-- One run of the linter for each file attempted, and one such file at least if it is aborted. -/
theorem execute_context (calls : List (List String)) :
    let c := context o files
    let analysis := Analysis.execute runner .ansible o.lintArgs cwd c s
    let report := analysis.1.value.1
    Analysis.execute runner.recorded .ansible o.lintArgs cwd c (s, calls) =
        (analysis.1, analysis.2,
          calls ++ LintVersion.command (LintSettings.ofSettings c.settings).lintPath ::
            report.scanned.map (Analysis.commandFor .ansible o.lintArgs c)) ∧
      report.saved = analysis.1.value.2.issues.length ∧
      (report.aborted = true → 1 ≤ report.scanned.length) ∧
      report.scanned.length ≤ files.size := by
  intro c analysis report
  have hvalue : analysis.1.value = _ :=
    Analysis.value_execute_eq runner .ansible o.lintArgs cwd c s
  obtain ⟨hscanned, -, haborted, -⟩ :=
    Analysis.value_execute_runs runner .ansible o.lintArgs cwd c s hfiles
  have hattempted : report.scanned = (c.files.ofLanguage Profile.ansible.language).take
      (Analysis.attempts (Analysis.lintReplies runner .ansible o.lintArgs c s)) :=
    hscanned.trans (Analysis.map_file_runAll ..)
  refine ⟨?calls, ?saved, ?attempted, ?total⟩
  case calls =>
    rw [hattempted]
    exact Analysis.execute_recorded runner .ansible o.lintArgs cwd c s calls
  case saved =>
    rw [show report = _ from congrArg (·.1) hvalue, congrArg (·.2) hvalue,
      show c.issues = [] from rfl, List.nil_append]
  case attempted =>
    intro h
    obtain ⟨run, hrun, -⟩ := haborted.1 h
    rw [show report.scanned = _ from hscanned, List.length_map]
    exact List.length_pos_of_mem hrun
  case total =>
    rw [hattempted]
    exact Nat.le_trans (List.length_take_le' ..) (List.length_filter_le ..)

end

/-! ## The program -/

section
variable (runner : Runner σ) (disk : Disk) (cwd : WorkingDir) (args : List String) (output : Sink)
  (time : String) (s : σ)

theorem invoke_of_ok {o : Options} {filter : Log.Filter} (ho : Options.parse args = .ok o)
    (hfilter : Log.Filter.parse o.logFilter = .ok filter) :
    let performed := perform runner disk cwd o output s
    ∃ log, invoke runner disk cwd args output time s =
      (match performed.1.value.result with
        | .ok () => ⟨0, performed.1.value.output, log⟩
        | .error e => ⟨e.exitCode, performed.1.value.output, log ++ complaint e⟩, performed.2) := by
  intro performed
  refine ⟨logText filter o.logFormat time performed.1.events, ?_⟩
  simp only [invoke, ho, hfilter]
  change (match performed.1.value.result with
    | .ok () => _
    | .error e => _) = _
  cases performed.1.value.result <;> rfl

theorem invoke_of_misused (h : Misused disk cwd args) :
    ∃ errors, invoke runner disk cwd args output time s = (⟨2, output, errors⟩, s) := by
  cases h with
  | @arguments e h =>
    refine ⟨e.message, ?_⟩
    simp only [invoke, h]
  | @filter o reason ho h =>
    refine ⟨complaint (.badFilter o.logFilter reason), ?_⟩
    simp only [invoke, ho, h, ScanError.exitCode]
  | @baseDir o ho h =>
    cases hfilter : Log.Filter.parse o.logFilter with
    | error reason =>
      refine ⟨complaint (.badFilter o.logFilter reason), ?_⟩
      simp only [invoke, ho, hfilter, ScanError.exitCode]
    | ok filter =>
      obtain ⟨log, hinvoke⟩ := invoke_of_ok runner disk cwd args output time s ho hfilter
      obtain ⟨hvalue, hstate⟩ := perform_of_error runner disk cwd o output s
        (FileSet.value_collect_of_not_isDirectory disk cwd o.baseDir h)
      refine ⟨log ++ complaint (.notADirectory o.baseDir), ?_⟩
      simp only [hinvoke, hvalue, hstate, ScanError.exitCode]

/-- When files are collected and the output takes all, the program ends as the analysis does. -/
theorem invoke_of_collected {o : Options} {filter : Log.Filter} {files : FileSet}
    (ho : Options.parse args = .ok o) (hfilter : Log.Filter.parse o.logFilter = .ok filter)
    (hcollect : (FileSet.collect disk cwd o.baseDir).value = .ok files) :
    let analysis := Analysis.execute runner .ansible o.lintArgs cwd (context o files) s
    let report := analysis.1.value.1
    let issues := analysis.1.value.2.issues
    output.Accepts (Utf8.encode (Issue.lines issues)).length →
      ∃ log, invoke runner disk cwd args output time s =
        (⟨if report.aborted then 1 else 0, output.taking (Utf8.encode (Issue.lines issues)),
            log ++ if report.aborted then
              programName ++ ": analysis stopped after " ++ toString report.scanned.length ++
                " of " ++ toString files.size ++ " files\n"
            else ""⟩, analysis.2) := by
  intro analysis report issues haccepts
  rw [← complaint_aborted]
  obtain ⟨log, hinvoke⟩ := invoke_of_ok runner disk cwd args output time s ho hfilter
  obtain ⟨hvalue, hstate⟩ := perform_of_ok runner disk cwd o output s hcollect
  rw [report_of_accepts files.size report haccepts] at hvalue
  refine ⟨log, ?_⟩
  rw [hinvoke, hvalue, hstate]
  cases report.aborted <;> simp [ScanError.exitCode, analysis, issues]

end

/-- **How the program ends.** Misuse ends with code 2 and a tree that cannot be read with code 1,
both without output and without running anything. Otherwise the saved issues are written, even if
the analysis was aborted, and the code and the last line of the errors say whether it was. -/
theorem invoke_ends (runner : Runner σ) (disk : Disk) (cwd : WorkingDir) (args : List String)
    (output : Sink) (time : String) (s : σ) (calls : List (List String)) :
    let ended := invoke runner.recorded disk cwd args output time (s, calls)
    (∀ flag, Options.parse args = .error (.show flag) →
      ∃ shown, ended = (⟨0, shown, ""⟩, s, calls)) ∧
    (Misused disk cwd args → ∃ errors, ended = (⟨2, output, errors⟩, s, calls)) ∧
    ∀ o, Options.parse args = .ok o → ¬ Misused disk cwd args →
      (FileSet.Unreadable disk cwd o.baseDir →
        ∃ errors, ended = (⟨1, output, errors⟩, s, calls)) ∧
      (¬ FileSet.Unreadable disk cwd o.baseDir →
        ∃ files : FileSet, (FileSet.collect disk cwd o.baseDir).value = .ok files ∧
          let c := context o files
          let analysis := Analysis.execute runner .ansible o.lintArgs cwd c s
          let report := analysis.1.value.1
          let issues := analysis.1.value.2.issues
          report.saved = issues.length ∧
          (report.aborted = true →
            1 ≤ report.scanned.length ∧ report.scanned.length ≤ files.size) ∧
          (output.Accepts (Utf8.encode (Issue.lines issues)).length → ∃ log, ended =
            (⟨if report.aborted then 1 else 0, output.taking (Utf8.encode (Issue.lines issues)),
                log ++ if report.aborted then
                  programName ++ ": analysis stopped after " ++ toString report.scanned.length ++
                    " of " ++ toString files.size ++ " files\n"
                else ""⟩,
              analysis.2,
              calls ++ LintVersion.command (LintSettings.ofSettings c.settings).lintPath ::
                report.scanned.map (Analysis.commandFor .ansible o.lintArgs c)))) := by
  intro ended
  refine ⟨fun flag h => ?shows, invoke_of_misused runner.recorded disk cwd args output time _,
    fun o ho hused => ?scans⟩
  case shows =>
    refine ⟨(output.write (Utf8.encode (Usage.text flag).toList)).2, ?_⟩
    simp only [ended, invoke, h]
  case scans =>
    have hdirectory : disk.isDirectory cwd.path o.baseDir = true :=
      Bool.of_not_eq_false fun h => hused (.baseDir ho h)
    obtain ⟨filter, hfilter⟩ : ∃ filter, Log.Filter.parse o.logFilter = .ok filter := by
      cases h : Log.Filter.parse o.logFilter with
      | error reason => exact absurd (.filter ho h) hused
      | ok filter => exact ⟨filter, rfl⟩
    obtain ⟨log, hinvoke⟩ :=
      invoke_of_ok runner.recorded disk cwd args output time (s, calls) ho hfilter
    rcases FileSet.value_collect_of_isDirectory disk cwd o.baseDir hdirectory with
      ⟨hbad, p, e, hcollect⟩ | ⟨hgood, files, hcollect, hbuilt⟩
    · obtain ⟨hvalue, hstate⟩ :=
        perform_of_error runner.recorded disk cwd o output (s, calls) hcollect
      refine ⟨fun _ => ⟨log ++ complaint (.unreadable p e), ?_⟩, fun h => absurd hbad h⟩
      simp only [ended, hinvoke, hvalue, hstate, ScanError.exitCode]
    · refine ⟨fun h => absurd h hgood, fun _ => ⟨files, hcollect, ?_⟩⟩
      intro c analysis report issues
      obtain ⟨hrecorded, hsaved, hattempted, htotal⟩ :=
        execute_context runner cwd o hbuilt s calls
      have hended := invoke_of_collected runner.recorded disk cwd args output time (s, calls) ho
        hfilter hcollect
      rw [hrecorded] at hended
      exact ⟨hsaved, fun h => ⟨hattempted h, htotal⟩, hended⟩

end Scan

end PlaybookScan
