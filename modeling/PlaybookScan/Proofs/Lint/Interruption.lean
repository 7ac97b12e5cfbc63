import PlaybookScan.Proofs.InputFile
import PlaybookScan.Proofs.Lint.Runs
import PlaybookScan.Proofs.Process.Interrupt

/-!
# Interrupted analyses

An analysis whose command lines are processes ends with the first run that tests the interrupt flag
when it is raised. Each run takes its course (`runAll_watching`, `Process.Course`), and a run that
failed is the last one (`pairwise_runAll`). So one run at most starts its child when the flag is
raised (`countP_startsRaised_le_one`), and `execute_interrupted` says what is left: the files up to
the interrupted run are scanned, and what the runs before it have printed is saved.
-/

set_option autoImplicit false

namespace PlaybookScan

variable {σ : Type}

namespace Process

/-- Runs command lines as processes, keeping the acts of each. -/
def watching (os : OperatingSystem σ) : Runner (σ × List (List Act)) where
  run argv t :=
    let (reply, s, acts) := (runner os.watched).run argv (t.1, [])
    (reply, s, t.2 ++ [acts])

theorem run_watching (os : OperatingSystem σ) (argv : List String) (s : σ)
    (log : List (List Act)) :
    let r := (runner os).run argv s
    ∃ acts, (watching os).run argv (s, log) = (r.1, r.2, log ++ [acts]) ∧
      Course (argv.headD "") acts r.1.result := by
  intro r
  obtain ⟨acts, hrun, hcourse⟩ := course_run os argv ⟨[], []⟩ s []
  refine ⟨acts, ?_, hcourse.map _⟩
  simp only [watching, runner, hrun, List.nil_append]
  rfl

end Process

namespace Analysis

open Process Findings Grouping

/-! ## The runs, watched -/

/-- Each of the runs takes its course with the acts beside it. -/
def Courses (runs : List LintRun) (acts : List (List Act)) : Prop :=
  List.Forall₂ (fun run done => Course (run.argv.headD "") done run.reply.result) runs acts

theorem runAll_watching (os : OperatingSystem σ) (command : InputFile → List String)
    (files : List InputFile) (s : σ) (log : List (List Act)) :
    let r := runAll (Process.runner os) command files s
    ∃ acts, runAll (watching os) command files (s, log) = (r.1, r.2, log ++ acts) ∧
      Courses r.1 acts := by
  intro r
  induction files generalizing s log with
  | nil => exact ⟨[], by simp [r, runAll], .nil⟩
  | cons file files ih =>
    obtain ⟨done, hrun, hcourse⟩ := run_watching os (command file) s log
    by_cases hf : ((Process.runner os).run (command file) s).1.failed = true
    · refine ⟨[done], ?_, ?_⟩
      · simp only [r, runAll, hrun, if_pos hf]
      · simp only [r, runAll, if_pos hf]
        exact .cons hcourse .nil
    · obtain ⟨acts, hruns, hcourses⟩ :=
        ih ((Process.runner os).run (command file) s).2 (log ++ [done])
      refine ⟨done :: acts, ?_, ?_⟩
      · simp only [r, runAll, hrun, if_neg hf, hruns, List.append_assoc, List.singleton_append]
      · simp only [r, runAll, if_neg hf]
        exact .cons hcourse hcourses

theorem Courses.course {runs : List LintRun} {acts : List (List Act)} (h : Courses runs acts)
    {i : Nat} {run : LintRun} {done : List Act} (hi : runs[i]? = some run)
    (hdone : acts[i]? = some done) : Course (run.argv.headD "") done run.reply.result := by
  obtain ⟨hlt, rfl⟩ := List.getElem?_eq_some_iff.1 hi
  obtain ⟨hlt', rfl⟩ := List.getElem?_eq_some_iff.1 hdone
  exact List.Forall₂.get h hlt hlt'

/-- **Of the runs one at most starts its child when the flag is raised.** -/
theorem countP_startsRaised_le_one {runs : List LintRun} {acts : List (List Act)}
    (hc : Courses runs acts) (h : runs.Pairwise fun run _ => run.reply.failed = false) :
    acts.flatten.countP Act.startsRaised ≤ 1 := by
  induction hc with
  | nil => exact Nat.zero_le 1
  | @cons run done runs acts hcourse hcourses ih =>
    obtain ⟨hfirst, hrest⟩ := List.pairwise_cons.1 h
    rw [List.flatten_cons, List.countP_append]
    cases hcourses with
    | nil => simpa using hcourse.countP_startsRaised_le
    | cons hnext _ =>
      have hzero : done.countP Act.startsRaised = 0 :=
        hcourse.countP_startsRaised_eq_zero
          (by simpa [Reply.failed] using hfirst _ List.mem_cons_self)
      have ih := ih hrest
      omega

/-! ## The analysis -/

section
variable (os : OperatingSystem σ) (profile : Profile) (extraArgs : List String) (cwd : WorkingDir)
  (c : Context) (s : σ)

theorem execute_watching (log : List (List Act)) :
    let runs := runsOf (Process.runner os) profile extraArgs c s
    ∃ probe acts, execute (watching os) profile extraArgs cwd c (s, log) =
        ((execute (Process.runner os) profile extraArgs cwd c s).1,
          (execute (Process.runner os) profile extraArgs cwd c s).2, log ++ probe :: acts) ∧
      Course (LintSettings.ofSettings c.settings).lintPath probe
        (probed (Process.runner os) c s).1.result ∧
      Courses runs acts := by
  intro runs
  obtain ⟨probe, hprobe, hcourse⟩ := run_watching os
    (LintVersion.command (LintSettings.ofSettings c.settings).lintPath) s log
  obtain ⟨acts, hruns, hcourses⟩ := runAll_watching os (commandFor profile extraArgs c)
    (c.files.ofLanguage profile.language) (probed (Process.runner os) c s).2 (log ++ [probe])
  refine ⟨probe, acts, ?_, hcourse, hcourses⟩
  unfold commandFor probed at hruns
  simp only [execute, LintVersion.probe, hprobe, hruns, List.append_assoc, List.singleton_append]

theorem headD_argv_of_mem (runner : Runner σ) {run : LintRun}
    (hrun : run ∈ runsOf runner profile extraArgs c s) :
    run.argv.headD "" = (LintSettings.ofSettings c.settings).lintPath := by
  have hargv := List.mem_map_of_mem (f := LintRun.argv) hrun
  rw [runsOf, map_argv_runAll] at hargv
  obtain ⟨file, -, hfile⟩ := List.mem_map.1 hargv
  rw [← hfile]
  rfl

variable {os}

theorem fst_value_of_result {argv : List String} {s : σ} {e : LintError}
    (h : ((Process.runner os).run argv s).1.result = .error e) :
    (Process.run os argv ⟨[], []⟩ s).1.value.1 = .error e := by
  unfold Process.runner at h
  cases hcode : (Process.run os argv ⟨[], []⟩ s).1.value.1 with
  | ok code => simp [hcode, Except.map] at h
  | error e' => simpa [hcode, Except.map] using h

theorem failed_of_raised (h : os.NeverLowers) (argv : List String) {s : σ}
    (hs : os.raised s = true) : ((Process.runner os).run argv s).1.failed = true := by
  have hrun := failed_run_of_raised h argv ⟨[], []⟩ hs
  unfold Reply.failed Process.runner
  cases hcode : (Process.run os argv ⟨[], []⟩ s).1.value.1 with
  | ok code => simp [hcode, Except.toBool] at hrun
  | error e => simp [hcode, Except.map, Except.toBool]

/-- **An interrupt is final**, whenever the flag is raised. One child of the linter at most is
started with the flag raised, and a run that meets it is interrupted and is the last: its file is
the last one scanned, the analysis is aborted, and what the runs before it have printed is saved. -/
theorem execute_interrupted (h : os.NeverLowers) (hc : c.files.Built) :
    let settings := LintSettings.ofSettings c.settings
    let files := c.files.ofLanguage profile.language
    let runs := runsOf (Process.runner os) profile extraArgs c s
    let saved (lines : List String) :=
      (reported cwd c.files.baseDir lines).filterMap (accept? c)
    let execution := execute (Process.runner os) profile extraArgs cwd c s
    let report := execution.1.value.1
    let issues := execution.1.value.2.issues
    ∃ probe acts,
      execute (watching os) profile extraArgs cwd c (s, []) =
        (execution.1, execution.2, probe :: acts) ∧
      acts.length = runs.length ∧ runs.map (·.file) = files.take runs.length ∧
      acts.flatten.countP Act.startsRaised ≤ 1 ∧
      (∀ i run done, runs[i]? = some run → acts[i]? = some done → (∃ a ∈ done, a.raised = true) →
        run.reply.result = .error (.interrupted settings.lintPath) ∧
          report.scanned.getLast? = some run.file ∧ report.aborted = true ∧
          issues = c.issues ++ saved ((runs.take i).flatMap (·.reply.stdout)) ∧
          ∀ earlier ∈ runs.take i, earlier.reply.failed = false) ∧
      (∀ i run, runs[i]? = some run →
        let begin := (runAll (Process.runner os) (profile.command settings extraArgs)
          (files.take i) (probed (Process.runner os) c s).2).2
        os.raised begin = true → run.reply.failed = true ∧ i + 1 = runs.length) ∧
      (os.raised s = true ∨ (∃ a ∈ probe, a.raised = true) → files ≠ [] →
        runs.length = 1 ∧ report.aborted = true ∧ issues = c.issues) ∧
      (report.aborted = true ↔ ∃ run ∈ runs, run.reply.failed = true) := by
  intro settings files runs saved execution report issues
  obtain ⟨probe, acts, hwatching, hprobe, hcourses⟩ :=
    execute_watching os profile extraArgs cwd c s []
  obtain ⟨hscanned, hfiles, haborted, hissues⟩ :=
    value_execute_runs (Process.runner os) profile extraArgs cwd c s hc
  have hpairwise : runs.Pairwise fun run _ => run.reply.failed = false := pairwise_runAll ..
  have hfailed (i : Nat) (run : LintRun) (hi : runs[i]? = some run) (hraised : os.raised
      (runAll (Process.runner os) (profile.command settings extraArgs) (files.take i)
        (probed (Process.runner os) c s).2).2 = true) : run.reply.failed = true := by
    rw [reply_runAll _ _ _ _ hi]
    exact failed_of_raised h run.argv hraised
  refine ⟨probe, acts, hwatching, hcourses.length_eq.symm, hfiles,
    countP_startsRaised_le_one hcourses hpairwise, ?_, ?_, ?_, haborted⟩
  · rintro i run done hi hdone ⟨a, ha, har⟩
    have hresult := (hcourses.course hi hdone).eq_interrupted_of_raised ha har
    rw [headD_argv_of_mem profile extraArgs c s _ (List.mem_of_getElem? hi)] at hresult
    have hf : run.reply.failed = true := by
      rw [Reply.failed, hresult]
      rfl
    exact ⟨hresult, (value_execute_of_failed _ profile extraArgs cwd c s hc hi hf).2⟩
  · intro i run hi begin hraised
    have hf := hfailed i run hi hraised
    exact ⟨hf, add_one_eq_length_of_failed hpairwise hi hf⟩
  · intro hraised hne
    have hprobed : os.raised (probed (Process.runner os) c s).2 = true := by
      rw [show (probed (Process.runner os) c s).2 =
        (Process.run os (LintVersion.command settings.lintPath) ⟨[], []⟩ s).2 from rfl]
      rcases hraised with hs | ⟨a, ha, har⟩
      · exact raised_run h _ ⟨[], []⟩ hs
      · exact raised_run_of_interrupted h _ ⟨[], []⟩
          (fst_value_of_result (hprobe.eq_interrupted_of_raised ha har))
    obtain ⟨run, later, hruns⟩ := List.exists_cons_of_ne_nil
      (runAll_ne_nil (Process.runner os) (profile.command settings extraArgs) files
        (probed (Process.runner os) c s).2 hne)
    have hi : runs[0]? = some run := by
      rw [show runs = run :: later from hruns]
      rfl
    obtain ⟨hlength, -, habort, hsaved, -⟩ := value_execute_of_failed _ profile extraArgs cwd c s hc
      hi (hfailed 0 run hi hprobed)
    refine ⟨hlength.symm, habort, ?_⟩
    rw [show issues = _ from hsaved]
    exact List.append_nil _

end

/-- The flag is raised behind the last test of the first run: the child of the second is still
started, although it is done at once it is interrupted, and there is no third run. -/
theorem execute_interrupted_between_runs :
    let file (name : String) : InputFile :=
      ⟨name, ⟨"/p/" ++ name⟩, ⟨"file:///p/" ++ name⟩, "yaml", none⟩
    let files := (((FileSet.empty ⟨"/p"⟩).add (file "a.yml")).add (file "b.yml")).add (file "c.yml")
    let c : Context := .create files .empty (.allOf "ansible")
    -- The state counts the tests of the flag.
    let os : OperatingSystem Nat :=
      { spawn := fun argv n => (.ok ⟨1, 0, .ok (.exited 0),
          .delivered (argv.getLastD "" ++ ":1: r\n").toUTF8.toList, .delivered []⟩, n)
        interrupted := fun n => (decide (2 ≤ n), n + 1)
        sleep := fun _ n => n
        kill := fun _ n => n }
    let outcome := (execute (Process.runner os) .ansible [] .top c 0).1.value
    os.NeverLowers ∧ files.Built ∧
      (execute (watching os) .ansible [] .top c (0, [])).2.2 =
        [[.started false, .tested false], [.started false, .tested false],
          [.started true, .tested true]] ∧
      outcome.1.scanned.getLast? = some (file "b.yml") ∧ outcome.1.aborted = true ∧
      outcome.2.issues = [⟨⟨"ansible", "r"⟩, "a.yml", ⟨"file:///p/a.yml"⟩, 1, none⟩] := by
  intro file files c os outcome
  have hos : os.NeverLowers :=
    { spawn := fun _ _ hs => hs
      interrupted := fun n hs => decide_eq_true (Nat.le_succ_of_le (of_decide_eq_true hs))
      sleep := fun _ _ hs => hs
      kill := fun _ _ hs => hs }
  have built (name : String) (h : InputFile.create .top ⟨"/p/" ++ name⟩ "yaml" =
      .ok { file name with key := "/p/" ++ name }) : (file name).Built :=
    (InputFile.Built.create h).withKey name
  have hfiles : files.Built :=
    (((FileSet.Built.empty _).add (built "a.yml" (by decide +kernel))).add
      (built "b.yml" (by decide +kernel))).add (built "c.yml" (by decide +kernel))
  obtain ⟨probe, acts, hwatching, -, -, -, hinterrupted, -⟩ :=
    execute_interrupted .ansible [] .top c 0 hos hfiles
  have hacts : (execute (watching os) .ansible [] .top c (0, [])).2.2 =
      [[.started false, .tested false], [.started false, .tested false],
        [.started true, .tested true]] := by
    decide +kernel
  have hsecond : acts[1]? = some [.started true, .tested true] := by
    have hlog := (congrArg (·.2.2) hwatching).symm.trans hacts
    rw [(List.cons.inj hlog).2]
    rfl
  have hfile : ((runsOf (Process.runner os) .ansible [] c 0)[1]?).map (·.file) =
      some (file "b.yml") := by
    decide +kernel
  obtain ⟨run, hrun, hfile⟩ := Option.map_eq_some_iff.1 hfile
  obtain ⟨-, hscanned, haborted, hissues, -⟩ :=
    hinterrupted 1 run _ hrun hsecond ⟨.tested true, by decide, rfl⟩
  rw [hfile] at hscanned
  have houtcome : outcome = (execute (Process.runner os) .ansible [] .top c 0).1.value := rfl
  rw [houtcome, hissues]
  refine ⟨hos, hfiles, hacts, hscanned, haborted, ?_⟩
  decide +kernel

end Analysis

end PlaybookScan
