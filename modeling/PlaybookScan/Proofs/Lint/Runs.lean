import PlaybookScan.Proofs.InputFile
import PlaybookScan.Proofs.Lint.Outcome

/-!
# The runs of an analysis

The replies to the command lines of an analysis say everything about it: how many of the command
lines are run (`attempts`), on which files (`runAll_eq`), which files are scanned
(`scanned_absorbAll`), and with the reply to the question for the version the report and the issues
(`value_execute_eq`). A runner that keeps its command lines (`Runner.recorded`) shows that there are
no others (`execute_recorded`).
-/

set_option autoImplicit false

namespace PlaybookScan

open Findings Grouping

/-- `runner`, keeping the command lines that it is given. -/
def Runner.recorded {σ : Type} (runner : Runner σ) : Runner (σ × List (List String)) where
  run argv t := ((runner.run argv t.1).1, (runner.run argv t.1).2, t.2 ++ [argv])

@[simp] theorem Runner.run_recorded {σ : Type} (runner : Runner σ) (argv : List String) (s : σ)
    (calls : List (List String)) :
    runner.recorded.run argv (s, calls) =
      ((runner.run argv s).1, (runner.run argv s).2, calls ++ [argv]) := rfl

namespace Analysis

variable {σ : Type}

/-! ## The runs that are made -/

/-- The number of runs when these are the replies: the first that fails is the last one made. -/
def attempts (rs : List Reply) : Nat := (rs.findIdx? Reply.failed).elim rs.length (· + 1)

theorem attempts_cons (r : Reply) (rs : List Reply) :
    attempts (r :: rs) = if r.failed then 1 else attempts rs + 1 := by
  rw [attempts, attempts, List.findIdx?_cons]
  split
  · rfl
  · cases rs.findIdx? Reply.failed <;> rfl

theorem attempts_le (rs : List Reply) : attempts rs ≤ rs.length := by
  induction rs with
  | nil => exact Nat.le_refl 0
  | cons r rs ih =>
    rw [attempts_cons, List.length_cons]
    split <;> omega

theorem printed_eq_flatMap_take (rs : List Reply) :
    printed rs = (rs.take (attempts rs)).flatMap Reply.stdout := by
  induction rs with
  | nil => rfl
  | cons r rs ih =>
    rw [attempts_cons, printed]
    by_cases h : r.failed = true
    · simp [h, stdout_of_failed h]
    · rw [if_neg h, List.takeWhile_cons_of_pos (by simp [h]), List.take_succ_cons,
        List.flatMap_cons, List.flatMap_cons, ← ih, printed]

theorem length_replies (runner : Runner σ) (argvs : List (List String)) (s : σ) :
    (replies runner argvs s).length = argvs.length := by
  induction argvs generalizing s with
  | nil => rfl
  | cons argv argvs ih => rw [replies, List.length_cons, ih, List.length_cons]

section
variable (runner : Runner σ) (command : InputFile → List String) (files : List InputFile) (s : σ)

/-- **One run for each file**, up to the first that fails. -/
theorem runAll_eq :
    let rs := replies runner (files.map command) s
    (runAll runner command files s).1 =
      ((files.zip rs).take (attempts rs)).map fun p => ⟨p.1, command p.1, p.2⟩ := by
  induction files generalizing s with
  | nil => rfl
  | cons file files ih =>
    simp only [runAll, replies, List.map_cons, List.zip_cons_cons, attempts_cons]
    split
    · simp
    · simpa using ih _

theorem map_file_runAll :
    (runAll runner command files s).1.map (·.file) =
      files.take (attempts (replies runner (files.map command) s)) := by
  rw [runAll_eq]
  simp only [List.map_map, Function.comp_def]
  rw [List.map_take, List.map_fst_zip (by rw [length_replies, List.length_map])]

theorem map_reply_runAll :
    (runAll runner command files s).1.map (·.reply) =
      (replies runner (files.map command) s).take
        (attempts (replies runner (files.map command) s)) := by
  rw [runAll_eq]
  simp only [List.map_map, Function.comp_def]
  rw [List.map_take, List.map_snd_zip (by rw [length_replies, List.length_map])]

theorem map_argv_runAll :
    (runAll runner command files s).1.map (·.argv) =
      (files.take (attempts (replies runner (files.map command) s))).map command := by
  rw [← map_file_runAll, runAll_eq]
  simp only [List.map_map, Function.comp_def]

theorem runAll_ne_nil (h : files ≠ []) : (runAll runner command files s).1 ≠ [] := by
  cases files with
  | nil => exact absurd rfl h
  | cons file files =>
    simp only [runAll]
    split <;> simp

theorem pairwise_runAll :
    (runAll runner command files s).1.Pairwise fun run _ => run.reply.failed = false := by
  induction files generalizing s with
  | nil => exact .nil
  | cons file files ih =>
    simp only [runAll]
    by_cases h : (runner.run (command file) s).1.failed = true
    · simp [h]
    · rw [if_neg h]
      exact List.pairwise_cons.2 ⟨fun _ _ => by simpa using h, ih _⟩

theorem reply_runAll {i : Nat} {run : LintRun}
    (h : (runAll runner command files s).1[i]? = some run) :
    run.reply = (runner.run run.argv (runAll runner command (files.take i) s).2).1 := by
  induction files generalizing s i with
  | nil => simp [runAll] at h
  | cons file files ih =>
    cases i with
    | zero =>
      simp only [runAll] at h
      split at h <;> obtain rfl : _ = run := Option.some.inj h <;> rfl
    | succ i =>
      by_cases hf : (runner.run (command file) s).1.failed = true
      · simp [runAll, hf] at h
      · simp only [runAll, if_neg hf] at h
        simpa only [List.take_succ_cons, runAll, if_neg hf] using ih _ h

theorem runAll_recorded (calls : List (List String)) :
    runAll runner.recorded command files (s, calls) =
      ((runAll runner command files s).1, (runAll runner command files s).2,
        calls ++ (runAll runner command files s).1.map (·.argv)) := by
  induction files generalizing s calls with
  | nil => simp [runAll]
  | cons file files ih =>
    simp only [runAll, Runner.run_recorded]
    by_cases h : (runner.run (command file) s).1.failed = true
    · simp [h]
    · simp [h, ih]

end

theorem eq_take_append_of_failed {runs : List LintRun} {i : Nat} {run : LintRun}
    (h : runs.Pairwise fun run _ => run.reply.failed = false) (hi : runs[i]? = some run)
    (hf : run.reply.failed = true) :
    runs = runs.take i ++ [run] ∧ ∀ earlier ∈ runs.take i, earlier.reply.failed = false := by
  obtain ⟨hlt, rfl⟩ := List.getElem?_eq_some_iff.1 hi
  have hdrop : runs.drop i = runs[i] :: runs.drop (i + 1) := List.drop_eq_getElem_cons hlt
  rw [← List.take_append_drop i runs, hdrop, List.pairwise_append] at h
  obtain ⟨-, hlast, hearlier⟩ := h
  have hnone : runs.drop (i + 1) = [] := by
    refine List.eq_nil_iff_forall_not_mem.2 fun later hlater => ?_
    have := (List.pairwise_cons.1 hlast).1 later hlater
    rw [hf] at this
    cases this
  refine ⟨?_, fun earlier he => hearlier earlier he _ List.mem_cons_self⟩
  rw [← hnone, ← hdrop, List.take_append_drop]

theorem add_one_eq_length_of_failed {runs : List LintRun} {i : Nat} {run : LintRun}
    (h : runs.Pairwise fun run _ => run.reply.failed = false) (hi : runs[i]? = some run)
    (hf : run.reply.failed = true) : i + 1 = runs.length := by
  have hlt := (List.getElem?_eq_some_iff.1 hi).1
  have := congrArg List.length (eq_take_append_of_failed h hi hf).1
  simp only [List.length_append, List.length_take, List.length_singleton] at this
  omega

/-! ## The files that are scanned -/

/-- The files behind the ones scanned before, each URI once. -/
def scanAll (scanned files : List InputFile) : List InputFile :=
  files.foldl (fun fs file => if fs.any file.same then fs else fs ++ [file]) scanned

theorem scanAll_of_nodup {scanned files : List InputFile}
    (h : ((scanned ++ files).map InputFile.uri).Nodup) : scanAll scanned files = scanned ++ files := by
  induction files generalizing scanned with
  | nil => simp [scanAll]
  | cons file files ih =>
    rw [List.append_cons] at h ⊢
    have hnew : scanned.any file.same = false := by
      rw [List.map_append, List.map_append, List.nodup_append] at h
      simp only [List.any_eq_false, InputFile.same, beq_iff_eq]
      intro f hf he
      have hn := (List.nodup_append.1 h.1).2.2 f.uri (List.mem_map_of_mem hf)
      exact hn file.uri (List.mem_singleton_self _) he.symm
    rw [← ih h, scanAll, List.foldl_cons, hnew]
    rfl

theorem scanned_noteScanned (s : Findings) (file : InputFile) :
    (s.noteScanned file).scanned =
      if s.scanned.any file.same then s.scanned else s.scanned ++ [file] := by
  unfold noteScanned isScanned
  split <;> rfl

@[simp] theorem scanned_register (cwd : WorkingDir) (s : Findings) (line : String) :
    (s.register cwd line).value.2.scanned = s.scanned := by
  rw [value_register]
  cases located? cwd s.baseDir line <;> simp

@[simp] theorem scanned_registerAll (cwd : WorkingDir) (s : Findings) (lines : List String) :
    (s.registerAll cwd lines).value.2.scanned = s.scanned := by
  rw [value_registerAll]
  induction lines generalizing s with
  | nil => rfl
  | cons line lines ih => rw [List.foldl_cons, ih, scanned_register]

theorem scanned_absorbAll (cwd : WorkingDir) (p : Progress) (runs : List LintRun) :
    (absorbAll cwd p runs).value.findings.scanned =
      scanAll p.findings.scanned (runs.map (·.file)) := by
  rw [absorbAll, Logged.value_foldlM]
  induction runs generalizing p with
  | nil => rfl
  | cons run runs ih =>
    rw [List.foldl_cons, ih, findings_absorb, scanned_registerAll, scanned_noteScanned]
    rfl

/-! ## The whole analysis -/

section
variable (runner : Runner σ) (profile : Profile) (extraArgs : List String) (cwd : WorkingDir)
  (c : Context) (s : σ)

/-- What comes of the question for the version. -/
def probed : Reply × σ :=
  runner.run (LintVersion.command (LintSettings.ofSettings c.settings).lintPath) s

/-- The command line for a file of an analysis. -/
def commandFor (file : InputFile) : List String :=
  profile.command (.ofSettings c.settings) extraArgs file

/-- The replies to the command lines for all files, whether or not all are run. -/
def lintReplies : List Reply :=
  replies runner ((c.files.ofLanguage profile.language).map (commandFor profile extraArgs c))
    (probed runner c s).2

/-- The findings that are printed in these replies. -/
def foundIn (cwd : WorkingDir) (c : Context) (rs : List Reply) : List (FileUri × Finding) :=
  reported cwd c.files.baseDir (printed rs)

/-- What an analysis makes of its runs: report, issues and log. -/
def outcomeOf (cwd : WorkingDir) (c : Context) (version : Logged (Option LintVersion))
    (runs : List LintRun) : Logged (Report × Context) := do
  let version ← version
  let settings := LintSettings.ofSettings c.settings
  let start : Progress := ⟨.empty c.files.baseDir, .start settings.disableWarnings⟩
  let progress ← absorbAll cwd start runs
  let (found, findings) := progress.findings.drain
  let (saved, dropped, context) ← saveAll c found
  let aborted := runs.any (·.reply.failed)
  .log (.analysisFinished findings.scanned.length saved dropped aborted)
  return (⟨version, findings.scanned, saved, dropped, aborted⟩, context)

/-- Of the runner, only the replies to the command lines that are run make a difference. -/
theorem fst_execute : (execute runner profile extraArgs cwd c s).1 =
    outcomeOf cwd c (LintVersion.ofReply (probed runner c s).1)
      (runsOf runner profile extraArgs c s) := rfl

theorem drain_progressOf :
    (progressOf runner profile extraArgs cwd c s).findings.drain.1 =
      foundIn cwd c (lintReplies runner profile extraArgs c s) := by
  have took := (Progress.Took.start cwd c.files.baseDir
    (.start (LintSettings.ofSettings c.settings).disableWarnings)).absorbAll
    (runsOf runner profile extraArgs c s)
  rw [List.nil_append, runsOf, printed_runAll] at took
  exact took.drain_eq

/-- **Report and issues of an analysis**, from the replies. -/
theorem value_execute_eq :
    let rs := lintReplies runner profile extraArgs c s
    let found := foundIn cwd c rs
    let files := c.files.ofLanguage profile.language
    (execute runner profile extraArgs cwd c s).1.value =
      ({ version := (LintVersion.ofReply (probed runner c s).1).value
         scanned := scanAll [] (files.take (attempts rs))
         saved := (found.filterMap (accept? c)).length
         dropped := found.countP fun p => (accept? c p).isNone
         aborted := (rs.take (attempts rs)).any Reply.failed },
        { c with issues := c.issues ++ found.filterMap (accept? c) }) := by
  intro rs found files
  have hsaved : (saveAll c (progressOf runner profile extraArgs cwd c s).findings.drain.1).value =
      ((found.filterMap (accept? c)).length, found.countP fun p => (accept? c p).isNone,
        { c with issues := c.issues ++ found.filterMap (accept? c) }) := by
    rw [drain_progressOf]
    exact value_saveAll c fun p hp => line_ne_zero_of_reported hp
  have hscanned : (progressOf runner profile extraArgs cwd c s).findings.scanned =
      scanAll [] (files.take (attempts rs)) := by
    rw [progressOf, scanned_absorbAll, runsOf, map_file_runAll]
    rfl
  have haborted : (runsOf runner profile extraArgs c s).any (·.reply.failed) =
      (rs.take (attempts rs)).any Reply.failed := by
    have hm := map_reply_runAll runner (commandFor profile extraArgs c) files (probed runner c s).2
    rw [show rs.take (attempts rs) = _ from hm.symm, List.any_map]
    rfl
  have hreport : (execute runner profile extraArgs cwd c s).1.value =
      let saved := (saveAll c (progressOf runner profile extraArgs cwd c s).findings.drain.1).value
      (⟨(LintVersion.ofReply (probed runner c s).1).value,
        (progressOf runner profile extraArgs cwd c s).findings.scanned, saved.1, saved.2.1,
        (runsOf runner profile extraArgs c s).any (·.reply.failed)⟩, saved.2.2) := rfl
  rw [hreport, hsaved, hscanned, haborted]

/-- **Report and issues of an analysis**, from the runs that it makes: it scans their files, is
aborted if one of them failed, and saves what they have printed. -/
theorem value_execute_runs (hc : c.files.Built) :
    let runs := runsOf runner profile extraArgs c s
    let outcome := (execute runner profile extraArgs cwd c s).1.value
    outcome.1.scanned = runs.map (·.file) ∧
      runs.map (·.file) = (c.files.ofLanguage profile.language).take runs.length ∧
      (outcome.1.aborted = true ↔ ∃ run ∈ runs, run.reply.failed = true) ∧
      outcome.2.issues = c.issues ++
        (reported cwd c.files.baseDir (runs.flatMap (·.reply.stdout))).filterMap (accept? c) := by
  intro runs outcome
  have hfiles : runs.map (·.file) = (c.files.ofLanguage profile.language).take
      (attempts (lintReplies runner profile extraArgs c s)) := map_file_runAll ..
  have hreplies : runs.map (·.reply) = (lintReplies runner profile extraArgs c s).take
      (attempts (lintReplies runner profile extraArgs c s)) := map_reply_runAll ..
  have hprinted : runs.flatMap (·.reply.stdout) =
      printed (lintReplies runner profile extraArgs c s) := printed_runAll ..
  have hscanned : scanAll [] (runs.map (·.file)) = runs.map (·.file) := by
    rw [hfiles]
    exact scanAll_of_nodup (((List.take_sublist ..).map InputFile.uri).nodup
      (FileSet.nodup_uris_ofLanguage hc profile.language))
  have hvalue : outcome = _ := value_execute_eq runner profile extraArgs cwd c s
  rw [hvalue]
  refine ⟨?_, ?_, ?_, ?_⟩
  · rw [← hfiles, hscanned]
  · rw [← List.length_map (·.file), hfiles, List.take_eq_take_iff, List.length_take]
    omega
  · rw [← hreplies, List.any_map]
    simp
  · rw [hprinted]
    rfl

/-- The run that failed is the last one, and what is saved has been printed before it. -/
theorem value_execute_of_failed (hc : c.files.Built) {i : Nat} {run : LintRun}
    (hi : (runsOf runner profile extraArgs c s)[i]? = some run) (hf : run.reply.failed = true) :
    let runs := runsOf runner profile extraArgs c s
    let outcome := (execute runner profile extraArgs cwd c s).1.value
    i + 1 = runs.length ∧ outcome.1.scanned.getLast? = some run.file ∧ outcome.1.aborted = true ∧
      outcome.2.issues = c.issues ++ (reported cwd c.files.baseDir
        ((runs.take i).flatMap (·.reply.stdout))).filterMap (accept? c) ∧
      ∀ earlier ∈ runs.take i, earlier.reply.failed = false := by
  intro runs outcome
  have hpairwise : runs.Pairwise fun run _ => run.reply.failed = false := pairwise_runAll ..
  obtain ⟨hscanned, -, haborted, hissues⟩ := value_execute_runs runner profile extraArgs cwd c s hc
  obtain ⟨hruns, hearlier⟩ := eq_take_append_of_failed hpairwise hi hf
  have hprinted : runs.flatMap (·.reply.stdout) = (runs.take i).flatMap (·.reply.stdout) := by
    conv_lhs => rw [hruns]
    rw [List.flatMap_append, List.flatMap_singleton, stdout_of_failed hf, List.append_nil]
  refine ⟨add_one_eq_length_of_failed hpairwise hi hf, ?_,
    haborted.2 ⟨run, List.mem_of_getElem? hi, hf⟩, ?_, hearlier⟩
  · rw [show outcome.1.scanned = runs.map (·.file) from hscanned, hruns]
    simp
  · rw [← hprinted]
    exact hissues

/-- **The command lines of an analysis**: the question for the version, and one for each run. -/
theorem execute_recorded (calls : List (List String)) :
    let files := c.files.ofLanguage profile.language
    let k := attempts (lintReplies runner profile extraArgs c s)
    execute runner.recorded profile extraArgs cwd c (s, calls) =
      ((execute runner profile extraArgs cwd c s).1, (execute runner profile extraArgs cwd c s).2,
        calls ++ LintVersion.command (LintSettings.ofSettings c.settings).lintPath ::
          (files.take k).map (commandFor profile extraArgs c)) := by
  intro files k
  have hcalls := map_argv_runAll runner (commandFor profile extraArgs c) files (probed runner c s).2
  have hrun := runAll_recorded runner (commandFor profile extraArgs c) files (probed runner c s).2
    (calls ++ [LintVersion.command (LintSettings.ofSettings c.settings).lintPath])
  rw [hcalls, List.append_assoc, List.singleton_append] at hrun
  unfold commandFor probed at hrun
  simp only [execute, LintVersion.probe, Runner.run_recorded]
  rw [hrun]
  rfl

end

end Analysis

end PlaybookScan
