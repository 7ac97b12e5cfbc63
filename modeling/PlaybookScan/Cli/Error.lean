import PlaybookScan.HostError
import PlaybookScan.Lint.Error
import PlaybookScan.Log.Filter

/-!
# Why a scan fails

Errors of use and configuration end the program with code 2, all others with code 1.
-/

set_option autoImplicit false

namespace PlaybookScan

inductive ScanError where
  | invalidProperty (text : String)
  | notADirectory (path : Path)
  | unreadable (path : Path) (cause : IoError)
  | host (error : HostError)
  | badFilter (directives : String) (reason : Log.FilterError)
  /-- An issue could not be written. -/
  | serialise (cause : IoError)
  /-- The end of an issue's line could not be written, or the output not be flushed. -/
  | write (cause : IoError)
  /-- A run of the linter failed. -/
  | aborted (scanned total : Nat)
  deriving DecidableEq, Repr

namespace ScanError

def message : ScanError → String
  | invalidProperty text => "invalid property '" ++ text ++ "', expected KEY=VALUE"
  | notADirectory path => "base directory " ++ path.text ++ " is not a directory"
  | unreadable path cause => "failed to read " ++ path.text ++ ": " ++ cause.message
  | host error => error.message
  | badFilter directives reason =>
    "invalid log filter '" ++ directives ++ "': " ++ reason.message
  | serialise cause => "failed to serialise issue: " ++ cause.message
  | write cause => "failed to write issues: " ++ cause.message
  | aborted scanned total =>
    "analysis stopped after " ++ toString scanned ++ " of " ++ toString total ++ " files"

def exitCode : ScanError → Nat
  | invalidProperty _ | notADirectory _ | badFilter .. => 2
  | unreadable .. | host _ | serialise _ | write _ | aborted .. => 1

end ScanError

end PlaybookScan
