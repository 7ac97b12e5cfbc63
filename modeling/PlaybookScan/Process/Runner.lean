import PlaybookScan.Lint.Error
import PlaybookScan.Lint.Runner
import PlaybookScan.Text.Lines

/-!
# Running processes

A command line is run as a child process of an operating system, which is any type of states with
the few operations that a run needs. The operating system decides how many exit checks find the
child running, how it ends, and what its two pipes deliver until their end.

While it waits for the child, the run tests the interrupt flag before each exit check; a raised flag
ends the wait, and the child is killed. The two sinks get the child's output only if the wait
succeeds, the error output after the standard output.
-/

set_option autoImplicit false

namespace PlaybookScan

/-! ## Child processes -/

inductive ExitStatus where
  | exited (code : Nat)
  | signalled (number : Nat)
  deriving DecidableEq, Repr

namespace ExitStatus

/-- The exit code; death by a signal counts as -1. -/
def code : ExitStatus → Int
  | exited code => code
  | signalled _ => -1

/-- The status as one number: the code above eight bits, or the signal in them. -/
def waitStatus : ExitStatus → Nat
  | exited code => 256 * code
  | signalled number => number

end ExitStatus

/-- What the reader of a pipe comes to. -/
inductive PipeOutcome where
  | delivered (bytes : List UInt8)
  | failed (error : IoError)
  /-- The reader itself broke down. -/
  | broken
  deriving DecidableEq, Repr

/-- The lines read from a pipe. -/
def PipeOutcome.lines : PipeOutcome → Except IoError (List String)
  | delivered bytes => .ok (Text.Lines.read bytes)
  | failed error => .error error
  | broken => .error (.other "output reader panicked")

structure Child where
  pid : Nat
  /-- Number of exit checks that find the child running. -/
  runningPolls : Nat
  /-- What the exit check after these finds. -/
  status : Except IoError ExitStatus
  stdout : PipeOutcome
  stderr : PipeOutcome

/-! ## Runs -/

/-- The operating system as a run sees it. Each operation may change its state, so that time can
pass and flags can change between any two of them. -/
structure OperatingSystem (σ : Type) where
  /-- Starts the executable that the command line names. -/
  spawn : List String → σ → Except IoError Child × σ
  /-- Tests the interrupt flag. -/
  interrupted : σ → Bool × σ
  /-- Waits for so many milliseconds. -/
  sleep : Nat → σ → σ
  /-- Kills the child and everything that it started. -/
  kill : Child → σ → σ

/-- The lines received so far. -/
structure Sinks where
  stdout : List String
  stderr : List String
  deriving DecidableEq, Repr

namespace Process

variable {σ : Type}

/-- Milliseconds between two exit checks. -/
def pollInterval : Nat := 20

/-- Attempts to start an executable that is open for writing. -/
def spawnAttempts : Nat := 5

/-- Milliseconds between two such attempts, times the number of the attempt. -/
def retryDelay : Nat := 10

/-- Starts the child; `left` more attempts are made while the executable is busy. -/
def spawn (os : OperatingSystem σ) (program : String) (argv : List String) (attempt : Nat) :
    Nat → σ → Logged (Except IoError Child) × σ
  | 0, s =>
    let (child, s) := os.spawn argv s
    (pure child, s)
  | left + 1, s =>
    match os.spawn argv s with
    | (.error e, s) =>
      if e = .textFileBusy then
        let s := os.sleep (retryDelay * attempt) s
        let (rest, s) := spawn os program argv (attempt + 1) left s
        (Logged.log (.executableBusy program attempt) >>= fun _ => rest, s)
      else (pure (.error e), s)
    | (.ok child, s) => (pure (.ok child), s)

/-- Waits for the child, which `left` more exit checks find running. -/
def waitForExit (os : OperatingSystem σ) (program : String) (child : Child) :
    Nat → σ → Logged (Except LintError Int) × σ
  | left, s =>
    let (raised, s) := os.interrupted s
    if raised then
      (do
        .log (.interruptRequested program)
        .log (.terminating program child.pid)
        return .error (.interrupted program), os.kill child s)
    else match left with
      | left + 1 => waitForExit os program child left (os.sleep pollInterval s)
      | 0 =>
        match child.status with
        | .ok status =>
          (do
            .log (.exited program status.waitStatus)
            return .ok status.code, s)
        | .error e =>
          (do
            .log (.terminating program child.pid)
            return .error (.io program e), os.kill child s)

/-- The code and the sinks after a run whose wait came to `status`. The sinks are filled one after
the other: a standard output that has been taken over stays if the error output fails. -/
def collect (program : String) (child : Child) (sinks : Sinks) (status : Except LintError Int) :
    Except LintError Int × Sinks :=
  match status, child.stdout.lines, child.stderr.lines with
  | .error e, _, _ => (.error e, sinks)
  | .ok _, .error e, _ => (.error (.io program e), sinks)
  | .ok _, .ok out, .error e => (.error (.io program e), { sinks with stdout := sinks.stdout ++ out })
  | .ok code, .ok out, .ok err => (.ok code, ⟨sinks.stdout ++ out, sinks.stderr ++ err⟩)

def hasNul (s : String) : Bool := s.toList.contains '\x00'

/-- Runs a command line. Answers the exit code and the sinks afterwards. -/
def run (os : OperatingSystem σ) (argv : List String) (sinks : Sinks) (s : σ) :
    Logged (Except LintError Int × Sinks) × σ :=
  match argv with
  | [] => (pure (.error (.io "" (.other "empty command line")), sinks), s)
  | program :: args =>
    let start := Logged.log (.spawning program args)
    if argv.any hasNul then
      (do
        start
        return (.error (.io program (.other "nul byte found in provided data")), sinks), s)
    else
      let (spawned, s) := spawn os program argv 1 (spawnAttempts - 1) s
      match spawned.value with
      | .error e =>
        (do
          start
          let _ ← spawned
          return (.error (.io program e), sinks), s)
      | .ok child =>
        let (waited, s) := waitForExit os program child child.runningPolls s
        (do
          start
          let _ ← spawned
          return collect program child sinks (← waited), s)

/-- Runs command lines as processes. -/
def runner (os : OperatingSystem σ) : Runner σ where
  run argv s :=
    let (outcome, s) := run os argv ⟨[], []⟩ s
    let (code, sinks) := outcome.value
    (⟨code.map fun code => ⟨sinks.stdout, sinks.stderr, code⟩, outcome.events⟩, s)

end Process

end PlaybookScan
