import PlaybookScan.Process.Capture
import PlaybookScan.Proofs.InputFile
import PlaybookScan.Proofs.Lint.Messages

/-!
# What an analysis runs

An analysis asks the linter for its version and then runs it on the files of its language, in their
order, until a run fails. `execute_runs` says of any runner, whatever it prints and logs and
whichever of its runs fail, which command lines it is given, which files the report counts as
scanned, and what the runs contribute: all that is printed before the first failure, and nothing of
what the failed run printed.
-/

set_option autoImplicit false

namespace PlaybookScan

/-- The lines that a command line captured on its standard output. -/
def Captured.stdout (r : Captured) : List String := r.value.2.stdout

def Captured.stderr (r : Captured) : List String := r.value.2.stderr

namespace Analysis

variable {σ : Type}

/-! ## From what is captured to the replies -/

/-- What is captured of command lines that are run in turn, all of them. -/
def captures (runner : SinkRunner σ) : List (List String) → σ → List Captured
  | [], _ => []
  | argv :: argvs, s =>
    let (captured, s) := runner.capture argv s
    captured :: captures runner argvs s

theorem replies_toRunner (runner : SinkRunner σ) (argvs : List (List String)) (s : σ) :
    replies runner.toRunner argvs s = (captures runner argvs s).map Captured.reply := by
  induction argvs generalizing s with
  | nil => rfl
  | cons argv argvs ih =>
    rw [replies, captures, List.map_cons, ← ih]
    rfl

theorem attempts_map_reply (cs : List Captured) :
    attempts (cs.map Captured.reply) =
      (cs.findIdx? Captured.failed).elim cs.length (· + 1) := by
  rw [attempts, List.findIdx?_map, List.length_map]
  simp [Function.comp_def]

/-- A failed run has printed nothing that counts. -/
theorem flatMap_stdout_map_reply (cs : List Captured) :
    (cs.map Captured.reply).flatMap Reply.stdout =
      (cs.filter (!·.failed)).flatMap Captured.stdout := by
  induction cs with
  | nil => rfl
  | cons r cs ih =>
    rw [List.map_cons, List.flatMap_cons, ih]
    unfold Captured.reply Captured.failed Reply.stdout
    cases h : r.value.1 with
    | error e => simp [h, Except.map, Except.toBool]
    | ok code => simp [h, Except.map, Except.toBool, Captured.stdout]

theorem heard_reply (disableWarnings : Bool) (r : Captured) :
    heard disableWarnings r.reply = messages r.events ++
      if r.failed then [] else (Relay.start disableWarnings).messageOf r.stderr := by
  unfold heard Captured.reply Captured.failed
  cases r.value.1 <;> simp [Except.map, Except.toBool, Captured.stderr]

/-! ## The command line for a file -/

section
variable (profile : Profile) (extraArgs : List String) (c : Context)

/-- The arguments that name the configuration file, if one is set that is not blank. -/
def confArgs (s : Settings) : List String :=
  match s.get? LintSettings.confPathKey with
  | some path => if Text.isBlankText path then [] else ["-c", path]
  | none => []

theorem commandFor_eq (file : InputFile) :
    commandFor profile extraArgs c file =
      [(LintSettings.ofSettings c.settings).lintPath, "-p", "--nocolor", "-q"] ++
        confArgs c.settings ++ profile.extraArgs ++ extraArgs ++ [file.path.text] := by
  unfold commandFor Profile.command confArgs
  simp only [LintSettings.ofSettings, LintSettings.nonBlank?]
  cases c.settings.get? LintSettings.confPathKey with
  | none => rfl
  | some path => by_cases h : Text.isBlankText path = true <;> simp [Option.filter, h]

theorem head?_path_of_mem {c : Context} (hc : c.files.Built) {language : String} {file : InputFile}
    (hf : file ∈ c.files.ofLanguage language) : file.path.text.toList.head? = some '/' := by
  have ha := (hc.built_of_mem file (FileSet.mem_files_of_mem_ofLanguage hf)).isAbsolute_path
  simpa [Path.isAbsolute] using ha

end

/-! ## The analysis -/

section
variable (runner : SinkRunner σ) (profile : Profile) (extraArgs : List String) (cwd : WorkingDir)
  (c : Context) (s : σ)

/-- What is captured of the command lines for all files, whether or not all are run. -/
def lintCaptures : List Captured :=
  captures runner ((c.files.ofLanguage profile.language).map (commandFor profile extraArgs c))
    (runner.capture (LintVersion.command (LintSettings.ofSettings c.settings).lintPath) s).2

theorem lintReplies_toRunner : lintReplies runner.toRunner profile extraArgs c s =
    (lintCaptures runner profile extraArgs c s).map Captured.reply := by
  rw [lintReplies, replies_toRunner]
  rfl

theorem attempts_lintReplies :
    attempts (lintReplies runner.toRunner profile extraArgs c s) =
      ((lintCaptures runner profile extraArgs c s).findIdx? Captured.failed).elim
        (c.files.ofLanguage profile.language).length (· + 1) := by
  have hlength := length_replies runner.toRunner
    ((c.files.ofLanguage profile.language).map (commandFor profile extraArgs c))
    (probed runner.toRunner c s).2
  rw [← lintReplies, lintReplies_toRunner, List.length_map, List.length_map] at hlength
  rw [lintReplies_toRunner, attempts_map_reply, hlength]

theorem take_lintReplies (k : Nat) : (lintReplies runner.toRunner profile extraArgs c s).take k =
      ((lintCaptures runner profile extraArgs c s).take k).map Captured.reply := by
  rw [lintReplies_toRunner, List.map_take]

/-- **What an analysis runs and what the runs contribute.** After the question for the version it
runs one command line for each of the first `k` files, where run `k` is the first to fail or the
last of all. These files are scanned, and only a failed run contributes nothing. -/
theorem execute_runs (hc : c.files.Built) :
    let settings := LintSettings.ofSettings c.settings
    let files := c.files.ofLanguage profile.language
    let command (file : InputFile) := [settings.lintPath, "-p", "--nocolor", "-q"] ++
      confArgs c.settings ++ profile.extraArgs ++ extraArgs ++ [file.path.text]
    let probe := runner.capture [settings.lintPath, "--version"] s
    let captured := captures runner (files.map command) probe.2
    let k := (captured.findIdx? Captured.failed).elim files.length (· + 1)
    let made := captured.take k
    let execution := execute runner.toRunner.recorded profile extraArgs cwd c (s, [])
    let report := execution.1.value.1
    execution.2.2 = [settings.lintPath, "--version"] :: (files.take k).map command ∧
      (∀ file ∈ files, profile.command settings extraArgs file = command file ∧
        file.path.text.toList.head? = some '/') ∧
      report.scanned = files.take k ∧
      (report.aborted = true ↔ ∃ r ∈ made, r.failed = true) ∧
      execution.1.value.2.issues = c.issues ++
        (reported cwd c.files.baseDir
          ((made.filter (!·.failed)).flatMap Captured.stdout)).filterMap (accept? c) ∧
      messages execution.1.events = messages probe.1.events ++ made.flatMap fun r =>
        messages r.events ++
          if r.failed then [] else (Relay.start settings.disableWarnings).messageOf r.stderr := by
  intro settings files command probe captured k made execution report
  have hcommand : commandFor profile extraArgs c = command :=
    funext (commandFor_eq profile extraArgs c)
  have hcaptured : lintCaptures runner profile extraArgs c s = captured := by
    rw [lintCaptures, hcommand]
    rfl
  have hk : attempts (lintReplies runner.toRunner profile extraArgs c s) = k := by
    rw [attempts_lintReplies, hcaptured]
  have hmade := take_lintReplies runner profile extraArgs c s k
  rw [hcaptured] at hmade
  have hrecorded := execute_recorded runner.toRunner profile extraArgs cwd c s []
  have hvalue := value_execute_eq runner.toRunner profile extraArgs cwd c s
  have hmessages := messages_execute runner.toRunner profile extraArgs cwd c s
  simp only [hk, hmade, hcommand] at hrecorded hvalue hmessages
  have hexecution : execution.1 = (execute runner.toRunner profile extraArgs cwd c s).1 :=
    congrArg (·.1) hrecorded
  have hscanned : scanAll [] (files.take k) = files.take k :=
    scanAll_of_nodup (((List.take_sublist k files).map InputFile.uri).nodup
      (FileSet.nodup_uris_ofLanguage hc profile.language))
  have hprinted : printed (lintReplies runner.toRunner profile extraArgs c s) =
      (made.filter (!·.failed)).flatMap Captured.stdout := by
    rw [printed_eq_flatMap_take, hk, hmade, flatMap_stdout_map_reply]
  refine ⟨congrArg (·.2.2) hrecorded, fun file hf => ⟨?_, head?_path_of_mem hc hf⟩, ?_, ?_, ?_, ?_⟩
  · exact congrFun hcommand file
  · rw [show report = execution.1.value.1 from rfl, hexecution, hvalue]
    exact hscanned
  · rw [show report = execution.1.value.1 from rfl, hexecution, hvalue]
    simp only [List.any_map, List.any_eq_true, Function.comp_apply, Captured.failed_reply]
    rfl
  · rw [hexecution, hvalue, foundIn, hprinted]
  · rw [hexecution, hmessages, List.flatMap_map]
    simp only [heard_reply]
    rfl

end

/-- Of three runs the second fails after it has printed, and the third is not made. -/
theorem execute_runs_second_fails :
    let file (name : String) : InputFile :=
      ⟨name, ⟨"/p/" ++ name⟩, ⟨"file:///p/" ++ name⟩, "yaml", none⟩
    let files := (((FileSet.empty ⟨"/p"⟩).add (file "a.yml")).add (file "b.yml")).add (file "c.yml")
    let c : Context := .create files .empty (.allOf "ansible")
    let runner : SinkRunner Nat := ⟨fun _ sinks n =>
      (⟨[], if n = 2 then .error (.interrupted "ansible-lint") else .ok 0,
        sinks.stdout ++ ["a.yml:1: r" ++ toString n], sinks.stderr ++ ["line"]⟩, n + 1)⟩
    let execution := execute runner.toRunner.recorded .ansible ["-x"] .top c (0, [])
    files.Built ∧
      execution.2.2 = [["ansible-lint", "--version"],
        ["ansible-lint", "-p", "--nocolor", "-q", "-x", "/p/a.yml"],
        ["ansible-lint", "-p", "--nocolor", "-q", "-x", "/p/b.yml"]] ∧
      execution.1.value.1.scanned = [file "a.yml", file "b.yml"] ∧
      execution.1.value.1.aborted = true ∧
      execution.1.value.2.issues =
        [⟨⟨"ansible", "r1"⟩, "a.yml", ⟨"file:///p/a.yml"⟩, 1, none⟩] ∧
      messages execution.1.events = [["line"]] := by
  intro file files c runner execution
  have built (name : String) (h : InputFile.create .top ⟨"/p/" ++ name⟩ "yaml" =
      .ok { file name with key := "/p/" ++ name }) : (file name).Built :=
    (InputFile.Built.create h).withKey name
  have hfiles : files.Built :=
    (((FileSet.Built.empty _).add (built "a.yml" (by decide +kernel))).add
      (built "b.yml" (by decide +kernel))).add (built "c.yml" (by decide +kernel))
  obtain ⟨hcalls, -, hscanned, haborted, hissues, hmessages⟩ :=
    execute_runs runner .ansible ["-x"] .top c 0 hfiles
  refine ⟨hfiles, ?_, ?_, ?_, ?_, ?_⟩
  · rw [hcalls]
    decide +kernel
  · rw [hscanned]
    decide +kernel
  · rw [haborted]
    decide +kernel
  · rw [hissues]
    decide +kernel
  · rw [hmessages]
    decide +kernel

end Analysis

end PlaybookScan
