import PlaybookScan.Log.Event

/-!
# Runners

A runner runs command lines. It is any function of a command line and a state of its own, so that
real processes and prepared replies look alike to an analysis.
-/

set_option autoImplicit false

namespace PlaybookScan

/-- What a run printed, by line, and the code it ended with. -/
structure Output where
  stdout : List String
  stderr : List String
  exitCode : Int
  deriving DecidableEq, Repr

/-- What came of a command line, and what the runner logged meanwhile. -/
structure Reply where
  result : Except LintError Output
  events : List Event

structure Runner (σ : Type) where
  run : List String → σ → Reply × σ

def Reply.failed (r : Reply) : Bool := !r.result.toBool

end PlaybookScan
