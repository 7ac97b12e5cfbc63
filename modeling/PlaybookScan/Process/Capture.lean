import PlaybookScan.Process.Runner

/-!
# Capturing what is printed

What runs a command line appends the lines that are printed to two sinks, and comes to an exit code
or an error; an error does not say that nothing has been printed. An analysis gives every command
line sinks of its own, and has no use for those of a run that failed (`SinkRunner.toRunner`).
-/

set_option autoImplicit false

namespace PlaybookScan

/-- Anything that runs command lines and prints into sinks. -/
structure SinkRunner (σ : Type) where
  run : List String → Sinks → σ → Logged (Except LintError Int × Sinks) × σ

/-- What came of a command line: code and sinks, and what was logged meanwhile. -/
abbrev Captured : Type := Logged (Except LintError Int × Sinks)

namespace Captured

def failed (r : Captured) : Bool := !r.value.1.toBool

/-- The reply that an analysis sees. -/
def reply (r : Captured) : Reply where
  result := r.value.1.map fun code => ⟨r.value.2.stdout, r.value.2.stderr, code⟩
  events := r.events

@[simp] theorem failed_reply (r : Captured) : r.reply.failed = r.failed := by
  unfold Reply.failed failed reply
  cases r.value.1 <;> rfl

@[simp] theorem events_reply (r : Captured) : r.reply.events = r.events := rfl

end Captured

namespace SinkRunner

variable {σ : Type}

/-- Runs a command line with empty sinks. -/
def capture (runner : SinkRunner σ) (argv : List String) (s : σ) : Captured × σ :=
  runner.run argv ⟨[], []⟩ s

def toRunner (runner : SinkRunner σ) : Runner σ where
  run argv s :=
    let (captured, s) := runner.capture argv s
    (captured.reply, s)

end SinkRunner

/-- Processes are run in this way. -/
theorem Process.runner_eq_toRunner {σ : Type} (os : OperatingSystem σ) :
    runner os = SinkRunner.toRunner ⟨run os⟩ := rfl

end PlaybookScan
