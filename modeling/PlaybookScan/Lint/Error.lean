import PlaybookScan.IoError

/-!
# Why a run of the linter fails

A run fails because the operating system refuses something, or because it was interrupted.
-/

set_option autoImplicit false

namespace PlaybookScan

/-- Why a run of `program` failed. -/
inductive LintError where
  /-- It could not be started, or its output not be read. -/
  | io (program : String) (cause : IoError)
  /-- The wait for it was interrupted, and it was killed. -/
  | interrupted (program : String)
  deriving DecidableEq, Repr

namespace LintError

def program : LintError → String
  | io program _ => program
  | interrupted program => program

def cause? : LintError → Option IoError
  | io _ cause => some cause
  | interrupted _ => none

def message : LintError → String
  | io program cause => "I/O error running '" ++ program ++ "': " ++ cause.message
  | interrupted program => "interrupted while waiting for '" ++ program ++ "'"

end LintError

end PlaybookScan
