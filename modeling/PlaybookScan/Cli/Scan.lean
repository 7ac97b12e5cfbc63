import PlaybookScan.Cli.Collect
import PlaybookScan.Cli.Parser
import PlaybookScan.Cli.Sink
import PlaybookScan.Lint.Analysis

/-!
# Scans

The whole program: reads its arguments, collects the files, runs the analysis and writes the issues.
`Scan.perform` is the scan that options ask for, `Scan.invoke` adds what comes before it and turns
the outcome into text and an exit code.
-/

set_option autoImplicit false

namespace PlaybookScan

/-- What a scan comes to: an error or success, and the output with the issues. -/
structure ScanOutcome where
  result : Except ScanError Unit
  output : Sink

/-- How the program ends. -/
structure Ending where
  exitCode : Nat
  output : Sink
  /-- The text of the error output. -/
  errors : String

namespace Scan

variable {σ : Type}

/-- The context that the options and the collected files make. -/
def context (o : Options) (files : FileSet) : Context :=
  .create files (.ofList o.properties) (Options.catalogue o.rules)

/-- Writes the issues of an analysis and says whether it was complete. -/
def report (total : Nat) (output : Sink) (report : Report) (context : Context) :
    Logged ScanOutcome := do
  match output.writeIssues context.issues with
  | (.error e, output) => return ⟨.error e, output⟩
  | (.ok (), output) =>
    .log (.scanFinished total report.scanned.length report.saved report.dropped)
    if report.aborted then return ⟨.error (.aborted report.scanned.length total), output⟩
    else return ⟨.ok (), output⟩

/-- Runs the scan that the options ask for. -/
def perform (runner : Runner σ) (disk : Disk) (cwd : WorkingDir) (o : Options) (output : Sink)
    (s : σ) : Logged ScanOutcome × σ :=
  let collected : Logged (Except ScanError FileSet) := do
    .log (.logReady o.logFormat.display)
    FileSet.collect disk cwd o.baseDir
  match collected.value with
  | .error e => ((fun _ => ⟨.error e, output⟩) <$> collected, s)
  | .ok files =>
    let (analysis, s) :=
      Analysis.execute runner .ansible o.lintArgs cwd (context o files) s
    (do
      let _ ← collected
      let (found, context) ← analysis
      report files.size output found context, s)

/-- The last line of the error output. -/
def complaint (e : ScanError) : String := programName ++ ": " ++ e.message ++ "\n"

/-- The text of the events that pass the filter. -/
def logText (filter : Log.Filter) (format : Log.Format) (time : String) (events : List Event) :
    String :=
  String.join (((events.map Event.record).filter filter.enabled).map (format.render time))

/-- Runs the program with the arguments behind its name; log records bear the time `time`. -/
def invoke (runner : Runner σ) (disk : Disk) (cwd : WorkingDir) (args : List String) (output : Sink)
    (time : String) (s : σ) : Ending × σ :=
  match Options.parse args with
  | .error (.show flag) =>
    (⟨0, (output.write (Text.Utf8.encode (Usage.text flag).toList)).2, ""⟩, s)
  | .error (.error e) => (⟨2, output, e.message⟩, s)
  | .ok o =>
    match Log.Filter.parse o.logFilter with
    | .error reason =>
      let e := ScanError.badFilter o.logFilter reason
      (⟨e.exitCode, output, complaint e⟩, s)
    | .ok filter =>
      let (outcome, s) := perform runner disk cwd o output s
      let log := logText filter o.logFormat time outcome.events
      match outcome.value.result with
      | .ok () => (⟨0, outcome.value.output, log⟩, s)
      | .error e => (⟨e.exitCode, outcome.value.output, log ++ complaint e⟩, s)

end Scan

end PlaybookScan
