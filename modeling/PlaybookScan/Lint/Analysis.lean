import PlaybookScan.Context
import PlaybookScan.Findings
import PlaybookScan.Lint.Profile
import PlaybookScan.Lint.Relay
import PlaybookScan.Lint.Version

/-!
# Analyses

An analysis asks the linter for its version, runs it on the files of the profile's language, one
after another until a run fails, and saves the findings that the host accepts.

Which command lines are run depends on the settings and on which runs fail, not on what the runs
print. So the runs come first (`runAll`), and what is made of their output is a function of them
(`absorbAll`, `saveAll`).
-/

set_option autoImplicit false

namespace PlaybookScan

/-- One run of the linter. -/
structure LintRun where
  file : InputFile
  argv : List String
  reply : Reply

/-- What came of an analysis. -/
structure Report where
  /-- The version, unless the linter could not be asked. -/
  version : Option LintVersion
  /-- The files whose analysis was attempted. -/
  scanned : List InputFile
  /-- Number of findings saved. -/
  saved : Nat
  /-- Number of findings not saved. -/
  dropped : Nat
  /-- A run failed, and the files after it were left out. -/
  aborted : Bool
  deriving DecidableEq, Repr

namespace Analysis

variable {σ : Type}

/-- Runs the linter on the files in turn, up to and including the first run that fails. -/
def runAll (runner : Runner σ) (command : InputFile → List String) :
    List InputFile → σ → List LintRun × σ
  | [], s => ([], s)
  | file :: files, s =>
    let (reply, s) := runner.run (command file) s
    let run : LintRun := ⟨file, command file, reply⟩
    if reply.failed then ([run], s)
    else
      let (runs, s) := runAll runner command files s
      (run :: runs, s)

/-- What the runs so far have left. -/
structure Progress where
  findings : Findings
  relay : Relay

/-- Takes one run in. A run that failed leaves only its file. -/
def absorb (cwd : WorkingDir) (p : Progress) (run : LintRun) : Logged Progress := do
  let findings := p.findings.noteScanned run.file
  .log (.running run.file.key run.argv)
  .logAll run.reply.events
  match run.reply.result with
  | .error e =>
    .log (.cannotRun run.file.key e)
    return { p with findings }
  | .ok output =>
    .log (.finished run.file.key output.exitCode)
    let (recognised, findings) ← findings.registerAll cwd output.stdout
    .log (.parsed run.file.key output.stdout.length recognised)
    let relay ← p.relay.report output.stderr
    return ⟨findings, relay⟩

def absorbAll (cwd : WorkingDir) (p : Progress) (runs : List LintRun) : Logged Progress :=
  runs.foldlM (absorb cwd) p

/-- The issue that a finding on `file` makes under `rule`. -/
def issueOf (rule : RuleKey) (file : InputFile) (f : Finding) : Except HostError Issue :=
  (Issue.create rule file f.line).map (·.withMessage f.message)

/-- Saves a finding on `file` if its rule is active and its line is one of the file's. -/
def saveFinding (context : Context) (file : InputFile) (f : Finding) : Logged (Bool × Context) := do
  match context.rules.resolve? f.rule with
  | none =>
    .log (.inactiveRule f.rule)
    return (false, context)
  | some rule =>
    match issueOf rule file f with
    | .ok issue => return (true, context.save issue)
    | .error e =>
      .log (.cannotSave file.key f.line e)
      return (false, context)

/-- Saves a finding if the host knows its file, and as `saveFinding` says. -/
def saveFound (context : Context) (uri : FileUri) (f : Finding) : Logged (Bool × Context) := do
  match context.files.find? uri with
  | none =>
    .log (.foreignFinding uri f)
    return (false, context)
  | some file => saveFinding context file f

/-- Saves findings in turn. Answers how many were saved and how many were not. -/
def saveAll (context : Context) (found : List (FileUri × Finding)) :
    Logged (Nat × Nat × Context) :=
  found.foldlM (fun (saved, dropped, context) (uri, f) => do
    let (accepted, context) ← saveFound context uri f
    return if accepted then (saved + 1, dropped, context) else (saved, dropped + 1, context))
    (0, 0, context)

/-- Runs an analysis. -/
def execute (runner : Runner σ) (profile : Profile) (extraArgs : List String) (cwd : WorkingDir)
    (context : Context) (s : σ) : Logged (Report × Context) × σ :=
  let settings := LintSettings.ofSettings context.settings
  let (version, s) := LintVersion.probe runner settings.lintPath s
  let files := context.files.ofLanguage profile.language
  let (runs, s) := runAll runner (profile.command settings extraArgs) files s
  let aborted := runs.any (·.reply.failed)
  let outcome := do
    let version ← version
    let start : Progress := ⟨.empty context.files.baseDir, .start settings.disableWarnings⟩
    let progress ← absorbAll cwd start runs
    let (found, findings) := progress.findings.drain
    let (saved, dropped, context) ← saveAll context found
    .log (.analysisFinished findings.scanned.length saved dropped aborted)
    return (⟨version, findings.scanned, saved, dropped, aborted⟩, context)
  (outcome, s)

end Analysis

end PlaybookScan
