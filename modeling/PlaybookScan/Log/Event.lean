import PlaybookScan.Diagnostic
import PlaybookScan.FileUri
import PlaybookScan.Lint.Error
import PlaybookScan.Log.Record

/-!
# Events

Everything that the program reports while it works, as data. `Event.record` says how an event is
logged. `Logged α` is a value together with the events on the way to it.
-/

set_option autoImplicit false

namespace PlaybookScan

inductive Event where
  /-- The log output is set up, in this format. -/
  | logReady (format : String)
  | inputFileFound (key : String) (lines : UInt32)
  | scanFinished (files scanned saved dropped : Nat)
  | probeFailed (error : LintError)
  | versionUnknown
  | versionHeader
  /-- A line of the linter's version text. -/
  | versionLine (line : String)
  | lineZeroDropped (uri : FileUri) (rule : String)
  /-- A diagnostic was registered; `inserted` unless its finding was there already. -/
  | registered (layout : Layout) (inserted : Bool)
  | unresolvable (filename : String) (error : HostError)
  | running (file : String) (argv : List String)
  | finished (file : String) (exitCode : Int)
  | cannotRun (file : String) (error : LintError)
  | parsed (file : String) (lines recognised : Nat)
  | warningsHidden
  /-- Lines of the linter's error output. -/
  | errorOutput (lines : List String)
  | foreignFinding (uri : FileUri) (finding : Finding)
  | inactiveRule (rule : String)
  | cannotSave (file : String) (line : UInt32) (error : HostError)
  | analysisFinished (scanned saved dropped : Nat) (aborted : Bool)
  | spawning (program : String) (args : List String)
  | executableBusy (program : String) (attempt : Nat)
  /-- The process came to its end, with this wait status. -/
  | exited (program : String) (waitStatus : Nat)
  | interruptRequested (program : String)
  | terminating (program : String) (pid : Nat)
  deriving DecidableEq, Repr

namespace Event

open Log

/-- First line of the warning that relays the linter's error output. -/
def errorOutputHeader : String := "Messages printed to error output during analysis:"

def hiddenNotice : String :=
  "You asked not to see the ansible-lint warnings, they are removed from the reported messages"

/-- How an event is logged. -/
def record : Event → Record
  | logReady format => ⟨.debug, cli, "log output ready", [("log_format", .shown format)]⟩
  | inputFileFound key lines =>
    ⟨.debug, "ansible_lint_cli::project", "input file found",
      [("key", .shown key), ("lines", .number lines.toNat)]⟩
  | scanFinished files scanned saved dropped =>
    ⟨.info, cli, "scan finished",
      [("files", .number files), ("scanned", .number scanned), ("saved", .number saved),
        ("dropped", .number dropped)]⟩
  | probeFailed error => ⟨.debug, version, "version probe failed", [("err", .shown error.message)]⟩
  | versionUnknown => ⟨.warn, version, "Cannot get ansible version", []⟩
  | versionHeader => ⟨.info, version, "ansible-lint version:", []⟩
  | versionLine line => ⟨.info, version, line, []⟩
  | lineZeroDropped uri rule =>
    ⟨.debug, aggregator, "issue reported on line 0 dropped",
      [("uri", .shown uri.text), ("rule", .text rule)]⟩
  | registered layout inserted =>
    ⟨.debug, aggregator, "diagnostic registered",
      [("flavour", .shown layout.display), ("inserted", .flag inserted)]⟩
  | unresolvable filename error =>
    ⟨.debug, aggregator, "unresolvable file name",
      [("filename", .shown filename), ("err", .shown error.message)]⟩
  | running file argv =>
    ⟨.debug, sensor, "running ansible-lint", [("file", .text file), ("argv", .list argv)]⟩
  | finished file exitCode =>
    ⟨.debug, sensor, "ansible-lint finished",
      [("file", .text file), ("exit_code", .number exitCode)]⟩
  | cannotRun file error =>
    ⟨.warn, sensor,
      "Cannot run ansible-lint on " ++ file ++ ", analysis stopped: " ++ error.message, []⟩
  | parsed file lines recognised =>
    ⟨.debug, sensor, "ansible-lint output parsed",
      [("file", .text file), ("lines", .number lines), ("recognised", .number recognised)]⟩
  | warningsHidden => ⟨.info, sensor, hiddenNotice, []⟩
  | errorOutput lines =>
    ⟨.warn, sensor, errorOutputHeader ++ "\n" ++ "\n".intercalate lines, []⟩
  | foreignFinding uri finding =>
    ⟨.debug, sensor, "issue on a file outside the analysis ignored",
      [("uri", .shown uri.text), ("issue", .shown finding.display)]⟩
  | inactiveRule rule =>
    ⟨.debug, sensor, "Rule " ++ rule ++ " ignored, not found in repository", []⟩
  | cannotSave file line error =>
    ⟨.warn, sensor,
      "Cannot save issue on " ++ file ++ " line " ++ Text.decimal line ++ ": " ++ error.message, []⟩
  | analysisFinished scanned saved dropped aborted =>
    ⟨.debug, sensor, "ansible-lint analysis finished",
      [("scanned", .number scanned), ("saved", .number saved), ("dropped", .number dropped),
        ("aborted", .flag aborted)]⟩
  | spawning program args =>
    ⟨.debug, process, "spawning process", [("program", .text program), ("args", .list args)]⟩
  | executableBusy program attempt =>
    ⟨.debug, process, "executable busy, retrying spawn",
      [("program", .text program), ("attempt", .number attempt)]⟩
  | exited program waitStatus =>
    ⟨.debug, process, "process exited",
      [("program", .text program),
        ("status", .shown ("ExitStatus(unix_wait_status(" ++ toString waitStatus ++ "))"))]⟩
  | interruptRequested program =>
    ⟨.warn, process, "interrupt requested, killing process", [("program", .text program)]⟩
  | terminating program pid =>
    ⟨.debug, process, "terminating process", [("program", .text program), ("pid", .number pid)]⟩
where
  cli := "ansible_lint_cli"
  version := "ansible_lint_sensor::version"
  aggregator := "ansible_lint_sensor::aggregator"
  sensor := "ansible_lint_sensor::sensor"
  process := "ansible_lint_sensor::process"

end Event

/-- A value, and the events on the way to it. -/
structure Logged (α : Type) where
  events : List Event
  value : α

namespace Logged

variable {α β : Type}

instance : Monad Logged where
  pure a := ⟨[], a⟩
  bind m f := ⟨m.events ++ (f m.value).events, (f m.value).value⟩

def log (e : Event) : Logged Unit := ⟨[e], ()⟩

def logAll (es : List Event) : Logged Unit := ⟨es, ()⟩

@[simp] theorem events_pure (a : α) : (pure a : Logged α).events = [] := rfl
@[simp] theorem value_pure (a : α) : (pure a : Logged α).value = a := rfl
@[simp] theorem events_log (e : Event) : (log e).events = [e] := rfl
@[simp] theorem events_logAll (es : List Event) : (logAll es).events = es := rfl

@[simp] theorem events_bind (m : Logged α) (f : α → Logged β) :
    (m >>= f).events = m.events ++ (f m.value).events := rfl

@[simp] theorem value_bind (m : Logged α) (f : α → Logged β) :
    (m >>= f).value = (f m.value).value := rfl

end Logged

end PlaybookScan
